import Socle.Web.Statements
import Socle.Interaction.Pool

/-!
# Entries that are read once

Keys of Valkey at which texts are stored for some time, and from which they are read by deleting them.

* `IsStored`, `IsTaken`: the events at a key;
* `OneTime`: nothing else happens at the key;
* `EntrySound`: an entry has been stored, and has not been taken since;
* `take_entry`: what is taken has been stored, not too long ago;
* `taken_once`: an entry that is stored once is taken once.
-/

namespace Socle

open Interaction Valkey

variable {Req α : Type}

/-- A text is stored at the key for some seconds, in the state `s`, or its reply is lost. -/
def IsStored (H h : History WebOp WebRet Req α WebState) (i : ℕ) (k value : String) (seconds : ℤ)
    (s : WebState) : Prop :=
  ∃ r s', Occurs H h (.stmt i (.valkey (.setEx k value seconds)) r s s')

/-- The key is read and deleted in the state `s`. -/
def IsTaken (H h : History WebOp WebRet Req α WebState) (i : ℕ) (k : String) (x : Option String)
    (s : WebState) : Prop :=
  ∃ s', Occurs H h (.stmt i (.valkey (.getDel k)) (.ok x) s s')

theorem IsStored.of_suffix {H H' h : History WebOp WebRet Req α WebState} {i : ℕ} {k value : String}
    {seconds : ℤ} {s : WebState} (hs : IsStored H h i k value seconds s) (hH : H <:+ H') :
    IsStored H' h i k value seconds s := by
  obtain ⟨r, s', he⟩ := hs
  exact ⟨r, s', he.of_suffix hH⟩

theorem IsTaken.of_suffix {H H' h : History WebOp WebRet Req α WebState} {i : ℕ} {k : String}
    {x : Option String} {s : WebState} (hs : IsTaken H h i k x s) (hH : H <:+ H') :
    IsTaken H' h i k x s := by
  obtain ⟨s', he⟩ := hs
  exact ⟨s', he.of_suffix hH⟩

/-- At the key, texts are stored for `seconds` and read once, and nothing else happens. -/
def OneTime (H : History WebOp WebRet Req α WebState) (k : String) (seconds : ℤ) : Prop :=
  ∀ i q r s s', .stmt i (.valkey q) r s s' ∈ H → q.key = k →
    q = .getDel k ∨ ∃ value, q = .setEx k value seconds

/-- Only one text is ever stored at the key. -/
def StoredOnce (H : History WebOp WebRet Req α WebState) (k : String) : Prop :=
  ∀ i i' h h' value value' seconds seconds' s s', IsStored H h i k value seconds s →
    IsStored H h' i' k value' seconds' s' → h = h'

/-- What is found at the key has been stored there, and has not been taken since. -/
def EntrySound (k : String) (seconds : ℤ) (H : History WebOp WebRet Req α WebState) (s : WebState) : Prop :=
  ∀ e, s.keys k = some e → ∃ p i value t, IsStored H p i k value seconds t ∧
    e = ⟨.text value, some (t.app.clock + seconds.toNat * 1000000)⟩ ∧
      ∀ h j x u, IsTaken H h j k x u → h <:+ p

section EntrySound

variable {H : History WebOp WebRet Req α WebState} {k : String} {seconds : ℤ} {s s' : WebState}
  {e : Event WebOp WebRet Req α WebState}

/-- An event that takes nothing from the key, and leaves its slot, keeps the entry sound. -/
theorem EntrySound.cons (hs : EntrySound k seconds H s) (hkeys : s'.keys k = s.keys k)
    (he : ∀ i x t t', e ≠ .stmt i (.valkey (.getDel k)) (.ok x) t t') :
    EntrySound k seconds (e :: H) s' := by
  intro slot hslot
  rw [hkeys] at hslot
  obtain ⟨p, i, value, t, ⟨r, t', hstored⟩, heq, htaken⟩ := hs slot hslot
  refine ⟨p, i, value, t, ⟨r, t', hstored.cons⟩, heq, fun h j x u ⟨u', hocc⟩ => ?_⟩
  rcases occurs_cons.1 hocc with ⟨hnew, -⟩ | hold
  · exact absurd hnew.symm (he j x u u')
  · exact htaken h j x u ⟨u', hold⟩

/-- **Storing makes a sound entry.** -/
theorem EntrySound.setEx {env : WebEnv} (hs : EntrySound k seconds H s) {i : ℕ} {value : String}
    {r : Except ValkeyError Unit} (hstmt : WebStmt env (.valkey (.setEx k value seconds)) s r s') :
    EntrySound k seconds (.stmt i (.valkey (.setEx k value seconds)) r s s' :: H) s' := by
  rcases hstmt.valkey_keys with hkeys | ⟨x, hx⟩
  · exact hs.cons (by rw [hkeys]) (by simp)
  · intro slot hslot
    rw [setEx_ok hx, Keyspace.set_self] at hslot
    refine ⟨H, i, value, s, ⟨r, s', occurs_self⟩, (Option.some.inj hslot).symm, ?_⟩
    rintro h j y u ⟨u', hocc⟩
    rcases occurs_cons.1 hocc with ⟨heq, -⟩ | hold
    · cases heq
    · exact hold.past

/-- **Taking leaves no entry.** -/
theorem EntrySound.getDel {env : WebEnv} (hs : EntrySound k seconds H s) {i : ℕ}
    {r : Except ValkeyError (Option String)} (hstmt : WebStmt env (.valkey (.getDel k)) s r s') :
    EntrySound k seconds (.stmt i (.valkey (.getDel k)) r s s' :: H) s' := by
  have hgone : ∀ {x}, (Command.getDel k).apply s.app.clock s.keys = .ok (x, s'.keys) → s'.keys k = none := by
    intro x hx
    rw [(getDel_ok hx).2, Keyspace.erase_self]
  rcases r with e | x
  · rcases hstmt.valkey_keys with hkeys | ⟨x, hx⟩
    · exact hs.cons (by rw [hkeys]) (by simp)
    · intro slot hslot
      rw [hgone hx] at hslot
      cases hslot
  · intro slot hslot
    rw [hgone hstmt.valkey_ok] at hslot
    cases hslot

end EntrySound

/-! ### Runs -/

section Runs

variable {env : WebEnv} {sys : System WebOp WebRet Req α WebState} {clock : ℕ}
  {c : Pool WebOp WebRet Req α WebState} {k : String} {seconds : ℤ}
  (hsem : ∀ {H i o s r s'}, sys.sem H i o s r s' → WebStmt env o s r s')
  (htick : ∀ {s s'}, sys.tick s s' → WebTick s s') (hc : sys.Reachable (.fresh clock) c)
  (hone : OneTime c.history k seconds)

include hsem htick hc hone

/-- **Entries are sound**, at every point of a run. -/
theorem entry_sound : EntrySound k seconds c.history c.state ∧
    ∀ {h i o r s s'}, Occurs c.history h (.stmt i o r s s') → EntrySound k seconds h s := by
  refine hc.past_invariant ?_ ?_ ?_ ?_ ?_
  · intro e he
    cases he
  · intro H s s' ht hinv
    obtain ⟨t, -, rfl⟩ := htick ht
    exact hinv
  · exact fun hinv => hinv.cons rfl (by simp)
  · exact fun hinv => hinv.cons rfl (by simp)
  · intro h i o r s s' he hinv
    have hstmt := hsem (hc.sem_of_stmt he)
    by_cases hkey : ∃ q, o = .valkey q ∧ q.key = k
    · obtain ⟨q, rfl, hkey⟩ := hkey
      rcases hone i q r s s' he.mem hkey with rfl | ⟨value, rfl⟩
      · exact hinv.getDel hstmt
      · exact hinv.setEx hstmt
    · refine hinv.cons ?_ ?_
      · rcases hstmt.keys_cases with hkeys | ⟨q, x, rfl, hx⟩
        · rw [hkeys]
        · exact apply_frame hx fun heq => hkey ⟨q, rfl, heq.symm⟩
      · rintro j x t t' heq
        cases heq
        exact hkey ⟨_, rfl, rfl⟩

/-- **What is taken has been stored**, not longer ago than the lifetime, and not been taken before. -/
theorem take_entry {h : History WebOp WebRet Req α WebState} {j : ℕ} {raw : String} {s : WebState}
    (htake : IsTaken c.history h j k (some raw) s) : ∃ p i t, IsStored h p i k raw seconds t ∧
      s.app.clock ≤ t.app.clock + seconds.toNat * 1000000 ∧
      ∀ h' j' x u, IsTaken h h' j' k x u → h' <:+ p := by
  obtain ⟨s', he⟩ := htake
  obtain ⟨e, hkey, hlive, hraw⟩ := getDel_some (hsem (hc.sem_of_stmt he)).valkey_ok
  obtain ⟨p, i, value, t, hstored, rfl, htaken⟩ := (entry_sound hsem htick hc hone).2 he e hkey
  obtain rfl : value = raw := hraw
  exact ⟨p, i, t, hstored, of_decide_eq_true hlive, htaken⟩

/-- **What is stored once is taken once.** -/
theorem taken_once (hstored : StoredOnce c.history k) {h h' : History WebOp WebRet Req α WebState}
    {j j' : ℕ} {raw raw' : String} {s s' : WebState} (htake : IsTaken c.history h j k (some raw) s)
    (htake' : IsTaken c.history h' j' k (some raw') s') : j = j' ∧ h = h' := by
  -- The later of two would find what has been stored before the earlier one.
  have hlater : ∀ {a b : History WebOp WebRet Req α WebState} {m m' : ℕ} {y y' : String} {u u' : WebState},
      IsTaken c.history a m k (some y) u → IsTaken c.history b m' k (some y') u' →
        ¬ IsTaken a b m' k (some y') u' := by
    intro a b m m' y y' u u' ha hb hab
    obtain ⟨p, i, t, hp, -, hsince⟩ := take_entry hsem htick hc hone ha
    obtain ⟨p', i', t', hp', -, -⟩ := take_entry hsem htick hc hone hb
    obtain ⟨v, hocc⟩ := ha
    obtain ⟨v', hocc'⟩ := hb
    obtain ⟨r, w, hp⟩ := hp
    obtain ⟨r', w', hp'⟩ := hp'
    obtain rfl := hstored i i' p p' _ _ _ _ t t' ⟨r, w, hp.of_suffix hocc.past⟩
      ⟨r', w', hp'.of_suffix hocc'.past⟩
    have hle := (hsince b m' _ _ hab).length_le
    have hlt := hp'.length_le
    rw [List.length_cons] at hlt
    omega
  obtain ⟨v, he⟩ := id htake
  obtain ⟨v', he'⟩ := id htake'
  rcases he.total he' with ⟨heq, rfl⟩ | hlt | hlt
  · cases heq
    exact ⟨rfl, rfl⟩
  · exact absurd ⟨v', hlt⟩ (hlater htake htake')
  · exact absurd ⟨v, hlt⟩ (hlater htake' htake)

end Runs

end Socle
