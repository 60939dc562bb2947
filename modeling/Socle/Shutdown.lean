import Mathlib.Tactic.Common
import Mathlib.Data.List.Infix
import Mathlib.Data.Nat.Notation

/-!
# The shutdown of the server

`main` waits in a `tokio::select!` for the server, which ends gracefully after a shutdown signal, and
for a timer, which forces the end.

* `Server`, `Server.step`: the clock, the signal and the requests in flight;
* `select`, `mainSelect`: the branches as they are polled, in an order that varies;
* `StopsProperly`: the server stops only after a signal, and by force only if it has had the time to
  drain;
* `stops_unasked`: it stops without a signal, since the timer runs from the launch;
* `StopsInTime`, `stopsProperly_iff`: when it stops properly, by the times of the signal, the draining and
  the polls.
-/

namespace Socle.Shutdown

/-- The signals that `shutdown_signal` waits for. -/
inductive Signal
  | sigint
  | sigterm

/-- The branches of the `select!`. -/
inductive Branch
  | serve
  | sleep
  deriving DecidableEq

/-- What happens to the server. -/
inductive Event
  /-- A millisecond passes. -/
  | tick
  | arrive
  | finish
  | signal (s : Signal)
  /-- The `select!` is polled, with the branch `first` before the other one. -/
  | poll (first : Branch)

/-- The server since its launch. -/
@[ext] structure Server where
  /-- Milliseconds since the launch. -/
  elapsed : ℕ
  /-- When the first signal arrived. -/
  signalAt : Option ℕ
  inFlight : ℕ

namespace Server

def launch : Server := ⟨0, none, 0⟩

/-- After a signal no request is accepted any more. -/
def step (s : Server) : Event → Server
  | .tick => { s with elapsed := s.elapsed + 1 }
  | .arrive => if s.signalAt.isNone then { s with inFlight := s.inFlight + 1 } else s
  | .finish => { s with inFlight := s.inFlight - 1 }
  | .signal _ => { s with signalAt := s.signalAt.or (some s.elapsed) }
  | .poll _ => s

/-- The server after some events. -/
def after (s : Server) (events : List Event) : Server := events.foldl step s

@[simp] theorem after_nil (s : Server) : s.after [] = s := rfl

@[simp] theorem after_cons (s : Server) (e : Event) (events : List Event) :
    s.after (e :: events) = (s.step e).after events := rfl

/-- A signal has arrived and no request is in flight: the branch `serve` is ready. -/
def Drained (s : Server) : Prop := s.signalAt.isSome = true ∧ s.inFlight = 0

instance (s : Server) : Decidable s.Drained := inferInstanceAs (Decidable (_ ∧ _))

/-- The timeout has passed since the launch: the branch `sleep` is ready. -/
def TimedOut (timeoutSecs : UInt64) (s : Server) : Prop := timeoutSecs.toNat * 1000 ≤ s.elapsed

instance (timeoutSecs : UInt64) (s : Server) : Decidable (s.TimedOut timeoutSecs) :=
  inferInstanceAs (Decidable (_ ≤ _))

/-- The server has had the time to drain, and has not. -/
def Overdue (timeoutSecs : UInt64) (s : Server) : Prop :=
  ∃ t, s.signalAt = some t ∧ t + timeoutSecs.toNat * 1000 ≤ s.elapsed ∧ 0 < s.inFlight

end Server

/-- One poll of the `select!`: the first branch that is ready. -/
def select (timeoutSecs : UInt64) (s : Server) : Branch → Option Branch
  | .serve =>
    if s.Drained then some .serve else if s.TimedOut timeoutSecs then some .sleep else none
  | .sleep =>
    if s.TimedOut timeoutSecs then some .sleep else if s.Drained then some .serve else none

/-- How and when `main` leaves the `select!`, if it does. -/
def mainSelect (timeoutSecs : UInt64) : Server → List Event → Option (Branch × Server)
  | _, [] => none
  | s, .poll first :: events =>
    match select timeoutSecs s first with
    | some branch => some (branch, s)
    | none => mainSelect timeoutSecs s events
  | s, e :: events => mainSelect timeoutSecs (s.step e) events

/-- The server stops only after a signal, and by force only when the timeout has passed since the
signal and a request is still in flight. -/
def StopsProperly (timeoutSecs : UInt64) (events : List Event) : Prop :=
  ∀ {branch s}, mainSelect timeoutSecs .launch events = some (branch, s) →
    s.signalAt.isSome = true ∧ (branch = .sleep → s.Overdue timeoutSecs)

section Select

variable {timeoutSecs : UInt64} {s : Server} {first branch : Branch} {events : List Event}

theorem select_eq_none :
    select timeoutSecs s first = none ↔ ¬ s.Drained ∧ ¬ s.TimedOut timeoutSecs := by
  cases first
  · by_cases hd : s.Drained <;> by_cases ht : s.TimedOut timeoutSecs <;> simp [select, hd, ht]
  · by_cases hd : s.Drained <;> by_cases ht : s.TimedOut timeoutSecs <;> simp [select, hd, ht]

theorem select_eq_serve (h : select timeoutSecs s first = some .serve) : s.Drained := by
  by_contra hd
  cases first <;> by_cases ht : s.TimedOut timeoutSecs <;> simp [select, hd, ht] at h

theorem select_eq_sleep : select timeoutSecs s first = some .sleep ↔
    s.TimedOut timeoutSecs ∧ ¬ (s.Drained ∧ first = .serve) := by
  cases first <;> by_cases hd : s.Drained <;> by_cases ht : s.TimedOut timeoutSecs <;>
    simp [select, hd, ht]

/-- A poll of the `select!` in a run, before which no poll has found a branch ready. -/
structure Decisive (timeoutSecs : UInt64) (s : Server) (events past : List Event) (first : Branch) :
    Prop where
  poll : past ++ [.poll first] <+: events
  pending : ∀ {past' first'}, past' ++ [.poll first'] <+: past →
    ¬ (s.after past').Drained ∧ ¬ (s.after past').TimedOut timeoutSecs

theorem decisive_cons {e : Event} {past : List Event} :
    Decisive timeoutSecs s (e :: events) past first ↔
      (past = [] ∧ e = .poll first) ∨
        ∃ past', past = e :: past' ∧
          (∀ f, e = .poll f → ¬ s.Drained ∧ ¬ s.TimedOut timeoutSecs) ∧
          Decisive timeoutSecs (s.step e) events past' first := by
  constructor
  · rintro ⟨hpoll, hpending⟩
    rcases past with _ | ⟨e', past⟩
    · exact Or.inl ⟨rfl, (List.cons_prefix_cons.1 hpoll).1.symm⟩
    · obtain ⟨rfl, hpoll'⟩ := List.cons_prefix_cons.1 hpoll
      refine Or.inr ⟨past, rfl, ?_, hpoll', ?_⟩
      · rintro f rfl
        exact @hpending [] f (List.cons_prefix_cons.2 ⟨rfl, List.nil_prefix⟩)
      · intro past' f h
        exact @hpending (e' :: past') f (List.cons_prefix_cons.2 ⟨rfl, h⟩)
  · rintro (⟨rfl, rfl⟩ | ⟨past', rfl, he, hpoll, hpending⟩)
    · exact ⟨List.cons_prefix_cons.2 ⟨rfl, List.nil_prefix⟩, by simp⟩
    · refine ⟨List.cons_prefix_cons.2 ⟨rfl, hpoll⟩, ?_⟩
      intro past'' f h
      rcases past'' with _ | ⟨e', past''⟩
      · exact he f (List.cons_prefix_cons.1 h).1.symm
      · obtain ⟨rfl, h'⟩ := List.cons_prefix_cons.1 h
        exact hpending h'

/-- `main` leaves the `select!` at the decisive poll, if that finds a branch ready. -/
theorem mainSelect_eq_some {s' : Server} :
    mainSelect timeoutSecs s events = some (branch, s') ↔ ∃ past first,
      Decisive timeoutSecs s events past first ∧ s' = s.after past ∧
        select timeoutSecs s' first = some branch := by
  induction events generalizing s with
  | nil =>
    constructor
    · intro h
      cases h
    · rintro ⟨past, first, ⟨hpoll, -⟩, -⟩
      exact absurd (List.prefix_nil.1 hpoll) (by simp)
  | cons e events ih =>
    -- The run ends with `e`, or it goes on.
    have hcons : (∃ past first, Decisive timeoutSecs s (e :: events) past first ∧ s' = s.after past ∧
          select timeoutSecs s' first = some branch) ↔
        (∃ first, e = .poll first ∧ s' = s ∧ select timeoutSecs s first = some branch) ∨
          (∀ f, e = .poll f → ¬ s.Drained ∧ ¬ s.TimedOut timeoutSecs) ∧
            mainSelect timeoutSecs (s.step e) events = some (branch, s') := by
      rw [ih]
      constructor
      · rintro ⟨past, first, hdec, rfl, hb⟩
        rcases decisive_cons.1 hdec with ⟨rfl, he⟩ | ⟨past', rfl, he, hdec⟩
        · exact Or.inl ⟨first, he, rfl, hb⟩
        · exact Or.inr ⟨he, past', first, hdec, rfl, hb⟩
      · rintro (⟨first, he, rfl, hb⟩ | ⟨he, past, first, hdec, rfl, hb⟩)
        · exact ⟨[], first, decisive_cons.2 (Or.inl ⟨rfl, he⟩), rfl, hb⟩
        · exact ⟨e :: past, first, decisive_cons.2 (Or.inr ⟨past, rfl, he, hdec⟩), rfl, hb⟩
    rw [hcons]
    cases e with
    | poll f =>
      rw [mainSelect]
      simp only [Event.poll.injEq, forall_eq', exists_eq_left', Server.step]
      split
      · next b hb =>
        have hready : ¬ (¬ s.Drained ∧ ¬ s.TimedOut timeoutSecs) := by
          intro h
          rw [select_eq_none.2 h] at hb
          exact Option.some_ne_none b hb.symm
        simp only [hready, false_and, or_false, hb, Option.some.injEq, Prod.mk.injEq]
        exact ⟨fun h => ⟨h.2.symm, h.1⟩, fun h => ⟨h.2, h.1.symm⟩⟩
      · next hb => simp [hb, select_eq_none.1 hb]
    | _ => simp [mainSelect]

end Select

/-- The first poll at which the timeout has passed since the launch. -/
structure FirstLate (timeoutSecs : UInt64) (events past : List Event) (first : Branch) : Prop where
  poll : past ++ [.poll first] <+: events
  late : timeoutSecs.toNat * 1000 ≤ (Server.launch.after past).elapsed
  first_late : ∀ {past' first'}, past' ++ [.poll first'] <+: past →
    (Server.launch.after past').elapsed < timeoutSecs.toNat * 1000

/-- The times of the signal, of the draining and of the polls, where the timeout passes `t` milliseconds
after the launch, are such that the server stops properly.  At the first poll from `t` on, at the time
`t + d`, one of three holds: the server has drained before an earlier poll; it has drained since, and
`serve` is polled first; or the signal came in the first `d` milliseconds and requests are in flight. -/
def StopsInTime (timeoutSecs : UInt64) (events : List Event) : Prop :=
  ∀ {past first}, FirstLate timeoutSecs events past first →
    (∃ past' first', past' ++ [.poll first'] <+: past ∧ (Server.launch.after past').Drained) ∨
    ((Server.launch.after past).Drained ∧ first = .serve) ∨
    0 < (Server.launch.after past).inFlight ∧ ∃ t, (Server.launch.after past).signalAt = some t ∧
      t ≤ (Server.launch.after past).elapsed - timeoutSecs.toNat * 1000

/-- **The server stops properly** exactly if it is polled after draining before its timer runs out, or the
timer runs out so late that the timeout has passed since the signal, too. -/
theorem stopsProperly_iff (timeoutSecs : UInt64) (events : List Event) :
    StopsProperly timeoutSecs events ↔ StopsInTime timeoutSecs events := by
  constructor
  · intro h past first hlate
    by_cases hearlier : ∃ past' first', past' ++ [.poll first'] <+: past ∧ (Server.launch.after past').Drained
    · exact Or.inl hearlier
    by_cases hserve : (Server.launch.after past).Drained ∧ first = .serve
    · exact Or.inr (Or.inl hserve)
    -- No branch has been ready before, and now the timer is.
    have hdec : Decisive timeoutSecs .launch events past first :=
      ⟨hlate.poll, fun {past' first'} hpoll =>
        ⟨fun hd => hearlier ⟨past', first', hpoll, hd⟩, Nat.not_le.2 (hlate.first_late hpoll)⟩⟩
    have hsleep := select_eq_sleep.2 ⟨hlate.late, hserve⟩
    obtain ⟨t, hsig, hover, hflight⟩ := (h (mainSelect_eq_some.2 ⟨past, first, hdec, rfl, hsleep⟩)).2 rfl
    exact Or.inr (Or.inr ⟨hflight, t, hsig, Nat.le_sub_of_add_le hover⟩)
  · intro h branch s hs
    obtain ⟨past, first, hdec, rfl, hb⟩ := mainSelect_eq_some.1 hs
    cases branch with
    | serve => exact ⟨(select_eq_serve hb).1, fun hb => by cases hb⟩
    | sleep =>
      obtain ⟨htimed, hserve⟩ := select_eq_sleep.1 hb
      have hlate : FirstLate timeoutSecs events past first :=
        ⟨hdec.poll, htimed, fun hpoll => Nat.not_le.1 (hdec.pending hpoll).2⟩
      rcases h hlate with ⟨past', first', hpoll, hd⟩ | hd | ⟨hflight, t, hsig, ht⟩
      · exact absurd hd (hdec.pending hpoll).1
      · exact absurd hd hserve
      · exact ⟨by rw [hsig]; rfl, fun _ => ⟨t, hsig, Nat.add_le_of_le_sub htimed ht, hflight⟩⟩

/-! ### An idle server -/

theorem mainSelect_ticks (timeoutSecs : UInt64) (s : Server) (n : ℕ) (events : List Event) :
    mainSelect timeoutSecs s (List.replicate n .tick ++ events) =
      mainSelect timeoutSecs { s with elapsed := s.elapsed + n } events := by
  induction n generalizing s with
  | zero => rfl
  | succ n ih =>
    rw [List.replicate_succ, List.cons_append, mainSelect.eq_3 _ _ _ _ (by simp), ih]
    simp only [Server.step, Nat.add_right_comm, Nat.add_assoc]

/-- With the default timeout, a server that nobody calls or signals stops after thirty seconds. -/
theorem stops_unasked : ¬ StopsProperly 30 (List.replicate 30000 .tick ++ [.poll .serve]) := by
  intro h
  have hleft : mainSelect 30 .launch (List.replicate 30000 .tick ++ [.poll .serve]) =
      some (.sleep, ⟨30000, none, 0⟩) := by
    rw [mainSelect_ticks]
    rfl
  exact absurd (h hleft).1 (by decide)

end Socle.Shutdown
