import Mathlib.Tactic.Common
import Mathlib.Logic.Function.Basic
import Mathlib.Data.Nat.Notation
import Mathlib.Data.Int.Notation
import Mathlib.Algebra.Group.Int.Defs

/-!
# A keyspace with expiring keys

String keys of a Valkey server, and the commands `SETEX`, `GETDEL`, `INCR` and `EXPIRE`, each of which
is atomic.  Time is in microseconds.

* `Slot`: a value with its deadline, and `Slot.live`;
* `Keyspace`, `Keyspace.lookup`: what a client finds at a key;
* `Command`, `Command.apply`: what a command replies and does;
* `setEx_ok`, `getDel_ok`, `incr_ok`, `expire_ok`, `expire_cases`: what successful commands do, and `apply_frame`: they
  touch no other key.
-/

namespace Valkey

/-- The value of a key; a counter is held as a number. -/
inductive Value
  | text (s : String)
  | number (n : ℤ)
  deriving DecidableEq

/-- What is sent to a client. -/
def Value.string : Value → String
  | text s => s
  | number n => toString n

/-- The numbers of 64 bits. -/
def isInt64 (n : ℤ) : Bool := decide (-2 ^ 63 ≤ n ∧ n < 2 ^ 63)

/-- The number that a value is: a text counts if it is the decimal notation of one. -/
def Value.number? : Value → Option ℤ
  | text s => s.toInt?.filter fun n => decide (toString n = s) && isInt64 n
  | number n => some n

/-- A value and the last instant at which it can be read, if there is one. -/
structure Slot where
  value : Value
  deadline : Option ℕ
  deriving DecidableEq

/-- The slot can be read at the time `now`. -/
def Slot.live (e : Slot) (now : ℕ) : Bool := e.deadline.all fun d => decide (now ≤ d)

/-- The slots of all keys, expired ones included. -/
abbrev Keyspace : Type := String → Option Slot

namespace Keyspace

def empty : Keyspace := fun _ => none

/-- What a client finds at a key. -/
def lookup (ks : Keyspace) (now : ℕ) (key : String) : Option Slot := (ks key).filter (·.live now)

def set (ks : Keyspace) (key : String) (e : Slot) : Keyspace := Function.update ks key (some e)

def erase (ks : Keyspace) (key : String) : Keyspace := Function.update ks key none

variable {ks : Keyspace} {now : ℕ} {key key' : String} {e : Slot}

theorem lookup_eq_some : ks.lookup now key = some e ↔ ks key = some e ∧ e.live now = true := by
  simp [lookup, Option.filter_eq_some_iff]

@[simp] theorem set_self : (ks.set key e) key = some e := Function.update_self ..

@[simp] theorem erase_self : (ks.erase key) key = none := Function.update_self ..

theorem set_ne (h : key' ≠ key) : (ks.set key e) key' = ks key' := Function.update_of_ne h ..

theorem erase_ne (h : key' ≠ key) : (ks.erase key) key' = ks key' := Function.update_of_ne h ..

@[simp] theorem lookup_empty : lookup empty now key = none := rfl

end Keyspace

/-! ### Commands -/

inductive Command
  | setEx (key value : String) (seconds : ℤ)
  | getDel (key : String)
  | incr (key : String)
  | expire (key : String) (seconds : ℤ)
  deriving DecidableEq

/-- Why a command is refused. -/
inductive Refusal
  | invalidExpireTime
  | notAnInteger
  | overflow
  deriving DecidableEq

namespace Command

/-- The key a command is about. -/
def key : Command → String
  | setEx key _ _ => key
  | getDel key => key
  | incr key => key
  | expire key _ => key

@[reducible] def Reply : Command → Type
  | setEx _ _ _ => Unit
  | getDel _ => Option String
  | incr _ => ℤ
  | expire _ _ => Bool

/-- The deadline `seconds` from now; nothing when it has no representation in milliseconds. -/
def deadline (now : ℕ) (seconds : ℤ) : Option ℕ :=
  if isInt64 (seconds * 1000 + (now / 1000 : ℕ)) then some (now + seconds.toNat * 1000000) else none

/-- Execute a command at the time `now`; a refused command changes nothing. -/
def apply (now : ℕ) (ks : Keyspace) : (q : Command) → Except Refusal (q.Reply × Keyspace)
  | setEx key value seconds =>
    match deadline now seconds with
    | some d => if seconds ≤ 0 then .error .invalidExpireTime else .ok ((), ks.set key ⟨.text value, some d⟩)
    | none => .error .invalidExpireTime
  | getDel key => .ok ((ks.lookup now key).map fun e => e.value.string, ks.erase key)
  | incr key =>
    match ks.lookup now key with
    | none => .ok ((1 : ℤ), ks.set key ⟨.number 1, none⟩)
    | some e =>
      match e.value.number? with
      | none => .error .notAnInteger
      | some n =>
        if isInt64 (n + 1) then .ok (n + 1, ks.set key { e with value := .number (n + 1) })
        else .error .overflow
  | expire key seconds =>
    match deadline now seconds with
    | none => .error .invalidExpireTime
    | some d =>
      match ks.lookup now key with
      | none => .ok (false, ks)
      | some e =>
        -- A deadline that has passed deletes the key.
        .ok (true, if seconds ≤ 0 then ks.erase key else ks.set key { e with deadline := some d })

end Command

section Rules

variable {now : ℕ} {ks ks' : Keyspace} {key : String}

theorem deadline_eq {seconds : ℤ} {d : ℕ} (h : Command.deadline now seconds = some d) :
    d = now + seconds.toNat * 1000000 := by
  unfold Command.deadline at h
  split at h
  · exact (Option.some.inj h).symm
  · cases h

/-- Other keys keep their slots. -/
theorem apply_frame {q : Command} {x : q.Reply} (h : q.apply now ks = .ok (x, ks')) {other : String}
    (hne : other ≠ q.key) : ks' other = ks other := by
  cases q with
  | setEx key value seconds =>
    simp only [Command.apply] at h
    split at h
    · split at h
      · cases h
      · cases h
        exact Keyspace.set_ne hne
    · cases h
  | getDel key =>
    cases h
    exact Keyspace.erase_ne hne
  | incr key =>
    simp only [Command.apply] at h
    split at h
    · cases h
      exact Keyspace.set_ne hne
    · split at h
      · cases h
      · split at h
        · cases h
          exact Keyspace.set_ne hne
        · cases h
  | expire key seconds =>
    simp only [Command.apply] at h
    split at h
    · cases h
    · split at h
      · cases h
        rfl
      · cases h
        split
        · exact Keyspace.erase_ne hne
        · exact Keyspace.set_ne hne

/-- A stored text can be read for `seconds`. -/
theorem setEx_ok {value : String} {seconds : ℤ} {x : Unit}
    (h : (Command.setEx key value seconds).apply now ks = .ok (x, ks')) :
    ks' = ks.set key ⟨.text value, some (now + seconds.toNat * 1000000)⟩ := by
  simp only [Command.apply] at h
  split at h
  · next d hd =>
    split at h
    · cases h
    · cases h
      rw [deadline_eq hd]
  · cases h

theorem getDel_ok {x : Option String} (h : (Command.getDel key).apply now ks = .ok (x, ks')) :
    x = (ks.lookup now key).map (fun e => e.value.string) ∧ ks' = ks.erase key := by
  cases h
  exact ⟨rfl, rfl⟩

/-- A text that has been read was in a slot that had not expired. -/
theorem getDel_some {s : String} (h : (Command.getDel key).apply now ks = .ok (some s, ks')) :
    ∃ e, ks key = some e ∧ e.live now = true ∧ e.value.string = s := by
  obtain ⟨e, he, hs⟩ := Option.map_eq_some_iff.1 (getDel_ok h).1.symm
  obtain ⟨hkey, hlive⟩ := Keyspace.lookup_eq_some.1 he
  exact ⟨e, hkey, hlive, hs⟩

/-- A counter starts at one, and counts on as long as it lives. -/
theorem incr_ok {n : ℤ} (h : (Command.incr key).apply now ks = .ok (n, ks')) :
    (ks.lookup now key = none ∧ n = 1 ∧ ks' = ks.set key ⟨.number 1, none⟩) ∨
      ∃ e m, ks.lookup now key = some e ∧ e.value.number? = some m ∧ n = m + 1 ∧
        ks' = ks.set key { e with value := .number (m + 1) } := by
  simp only [Command.apply] at h
  split at h
  · next hnone =>
    cases h
    exact Or.inl ⟨hnone, rfl, rfl⟩
  · next e he =>
    split at h
    · cases h
    · next m hm =>
      split at h
      · cases h
        exact Or.inr ⟨e, m, he, hm, rfl, rfl⟩
      · cases h

/-- A key that is given time keeps its value. -/
theorem expire_ok {seconds : ℤ} (hpos : 0 < seconds) {x : Bool}
    (h : (Command.expire key seconds).apply now ks = .ok (x, ks')) :
    (ks.lookup now key = none ∧ ks' = ks) ∨
      ∃ e, ks.lookup now key = some e ∧
        ks' = ks.set key { e with deadline := some (now + seconds.toNat * 1000000) } := by
  simp only [Command.apply] at h
  split at h
  · cases h
  · next d hd =>
    split at h
    · next hnone =>
      cases h
      exact Or.inl ⟨hnone, rfl⟩
    · next e he =>
      cases h
      refine Or.inr ⟨e, he, ?_⟩
      rw [if_neg (Int.not_le.2 hpos), deadline_eq hd]

/-- Whatever the time that it is given, a key keeps its value, or is deleted. -/
theorem expire_cases {seconds : ℤ} {x : Bool}
    (h : (Command.expire key seconds).apply now ks = .ok (x, ks')) :
    (ks.lookup now key = none ∧ ks' = ks) ∨ ∃ e, ks.lookup now key = some e ∧
      (ks' = ks.erase key ∨ ks' = ks.set key { e with deadline := some (now + seconds.toNat * 1000000) }) := by
  by_cases hpos : 0 < seconds
  · rcases expire_ok hpos h with hnone | ⟨e, he, hset⟩
    · exact Or.inl hnone
    · exact Or.inr ⟨e, he, Or.inr hset⟩
  · simp only [Command.apply] at h
    split at h
    · cases h
    · split at h
      · next hnone =>
        cases h
        exact Or.inl ⟨hnone, rfl⟩
      · next e he =>
        cases h
        exact Or.inr ⟨e, he, Or.inl (if_pos (Int.not_lt.1 hpos))⟩

end Rules

end Valkey
