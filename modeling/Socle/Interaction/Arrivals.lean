import Mathlib.Data.Set.Card

/-!
# The order of arrivals

A list without repetitions, the latest arrival first.

* `rank L a`: how many had arrived with `a`, zero when `a` has not arrived;
* `rank_injective`, `exists_rank`: the ranks are the numbers up to the length, each once;
* `ncard_rank_le`: how many are among the first `m`.
-/

namespace Interaction

variable {α : Type} [DecidableEq α]

/-- The number of arrivals up to that of `a`. -/
def rank : List α → α → ℕ
  | [], _ => 0
  | b :: L, a => if b = a then L.length + 1 else rank L a

variable {L : List α} {a b : α}

@[simp] theorem rank_cons_self : rank (a :: L) a = L.length + 1 := if_pos rfl

theorem rank_cons_ne (h : b ≠ a) : rank (b :: L) a = rank L a := if_neg h

theorem rank_le (L : List α) (a : α) : rank L a ≤ L.length := by
  induction L with
  | nil => exact Nat.le_refl 0
  | cons b L ih =>
    by_cases h : b = a
    · subst h
      rw [rank_cons_self, List.length_cons]
    · rw [rank_cons_ne h, List.length_cons]
      omega

theorem rank_pos (h : a ∈ L) : 0 < rank L a := by
  induction L with
  | nil => cases h
  | cons b L ih =>
    by_cases hb : b = a
    · subst hb
      rw [rank_cons_self]
      omega
    · rw [rank_cons_ne hb]
      exact ih ((List.mem_cons.1 h).resolve_left (Ne.symm hb))

/-- Later arrivals change no rank. -/
theorem rank_append {K : List α} (h : a ∉ K) : rank (K ++ L) a = rank L a := by
  induction K with
  | nil => rfl
  | cons b K ih =>
    have hb : b ≠ a := fun heq => h (heq ▸ List.mem_cons_self)
    rw [List.cons_append, rank_cons_ne hb]
    exact ih fun hm => h (List.mem_cons_of_mem _ hm)

/-- Nobody arrives with somebody else. -/
theorem rank_injective (ha : a ∈ L) (hb : b ∈ L) (h : rank L a = rank L b) : a = b := by
  induction L with
  | nil => cases ha
  | cons d L ih =>
    have hle := rank_le L
    by_cases hda : d = a
    · by_cases hdb : d = b
      · exact hda.symm.trans hdb
      · subst hda
        rw [rank_cons_self, rank_cons_ne hdb] at h
        have := hle b
        omega
    · by_cases hdb : d = b
      · subst hdb
        rw [rank_cons_self, rank_cons_ne hda] at h
        have := hle a
        omega
      · rw [rank_cons_ne hda, rank_cons_ne hdb] at h
        exact ih ((List.mem_cons.1 ha).resolve_left (Ne.symm hda))
          ((List.mem_cons.1 hb).resolve_left (Ne.symm hdb)) h

theorem exists_rank (hL : L.Nodup) {m : ℕ} (hpos : 0 < m) (hm : m ≤ L.length) :
    ∃ a ∈ L, rank L a = m := by
  induction L with
  | nil => exact absurd hpos (Nat.not_lt.2 hm)
  | cons b L ih =>
    obtain ⟨hb, hL⟩ := List.nodup_cons.1 hL
    rw [List.length_cons] at hm
    by_cases hlast : m = L.length + 1
    · exact ⟨b, List.mem_cons_self, by rw [rank_cons_self, hlast]⟩
    · obtain ⟨a, ha, hrank⟩ := ih hL (by omega)
      have hne : b ≠ a := fun heq => hb (heq ▸ ha)
      exact ⟨a, List.mem_cons_of_mem _ ha, by rw [rank_cons_ne hne, hrank]⟩

/-- **How many are among the first.** -/
theorem ncard_rank_le (hL : L.Nodup) (m : ℕ) :
    {a | a ∈ L ∧ rank L a ≤ m}.ncard = min L.length m := by
  induction L with
  | nil => simp
  | cons b L ih =>
    obtain ⟨hb, hL⟩ := List.nodup_cons.1 hL
    have hrank : ∀ a ∈ L, rank (b :: L) a = rank L a :=
      fun a ha => rank_cons_ne fun heq => hb (heq ▸ ha)
    have hfinite : {a | a ∈ L ∧ rank L a ≤ m}.Finite :=
      L.toFinset.finite_toSet.subset fun a ha => List.mem_toFinset.2 ha.1
    by_cases hm : L.length + 1 ≤ m
    · have heq : {a | a ∈ b :: L ∧ rank (b :: L) a ≤ m} = insert b {a | a ∈ L ∧ rank L a ≤ m} := by
        ext a
        simp only [Set.mem_ofPred_eq, Set.mem_insert_iff, List.mem_cons]
        constructor
        · rintro ⟨rfl | ha, hle⟩
          · exact Or.inl rfl
          · exact Or.inr ⟨ha, hrank a ha ▸ hle⟩
        · rintro (rfl | ⟨ha, hle⟩)
          · exact ⟨Or.inl rfl, by rw [rank_cons_self]; exact hm⟩
          · exact ⟨Or.inr ha, by rw [hrank a ha]; exact hle⟩
      rw [heq, Set.ncard_insert_of_notMem (fun h => hb h.1) hfinite, ih hL, List.length_cons]
      omega
    · have heq : {a | a ∈ b :: L ∧ rank (b :: L) a ≤ m} = {a | a ∈ L ∧ rank L a ≤ m} := by
        ext a
        simp only [Set.mem_ofPred_eq, List.mem_cons]
        constructor
        · rintro ⟨rfl | ha, hle⟩
          · rw [rank_cons_self] at hle
            exact absurd hle hm
          · exact ⟨ha, hrank a ha ▸ hle⟩
        · rintro ⟨ha, hle⟩
          exact ⟨Or.inr ha, by rw [hrank a ha]; exact hle⟩
      rw [heq, ih hL, List.length_cons]
      omega

/-- All who have arrived. -/
theorem ncard_mem (hL : L.Nodup) : {a | a ∈ L}.ncard = L.length := by
  have h := ncard_rank_le hL L.length
  simpa [rank_le] using h

end Interaction
