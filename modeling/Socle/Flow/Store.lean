import Socle.Flow.SingleUse
import Socle.Limits.Passage

/-!
# What is stored in Valkey

In every state that the service can reach, each key of Valkey belongs to one of three kinds, and holds what
the code that reads it expects.

* `Begun`, `CountEntry`: a counter is positive; its deadline has been set by an `EXPIRE`, and where it has
  none, no `EXPIRE` has been answered since it was begun;
* `StoredEntry`: pending authorizations, exchange codes and counters;
* `store_entries`: nothing else is stored;
* `StoreSound`, `store_sound`: whatever is read can be decoded, and whatever is counted is a number;
* `Unfinished`, `keys_expire`: every key expires, but for counters whose first request has not finished, or
  for which Valkey has failed.
-/

namespace Socle

open Interaction Prog Valkey

/-! ### Counters -/

/-- Request `i` has begun the counter after `p`, and no `EXPIRE` has been answered since. -/
structure Begun (H p : WebTrace) (i : ℕ) (k : String) : Prop where
  incr : ∃ r t t', Occurs H p (.stmt i (.valkey (.incr k)) r t t') ∧ t.lookup k = none
  since : ∀ h j seconds b u u', Occurs H h (.stmt j (.valkey (.expire k seconds)) (.ok b) u u') → h <:+ p

/-- What a counter holds after `H`. -/
structure CountEntry (H : WebTrace) (k : String) (e : Slot) : Prop where
  positive : ∃ n : ℕ, 0 < n ∧ e.value = .number n
  timed : ∀ d, e.deadline = some d → ∃ h i seconds r u u',
    Occurs H h (.stmt i (.valkey (.expire k seconds)) r u u') ∧ d = u.app.clock + seconds.toNat * 1000000
  untimed : e.deadline = none → ∃ p i, Begun H p i k

/-- What is found at a counter is a count. -/
def Counting (k : String) (H : WebTrace) (s : WebState) : Prop :=
  ∀ e, s.keys k = some e → CountEntry H k e

variable {env : WebEnv}

section Counting

variable {H : WebTrace} {k : String} {s s' : WebState}
  {event : Event WebOp WebRet WebRequest (Except WebError WebResponse) WebState}

theorem Begun.cons {p : WebTrace} {i : ℕ} (h : Begun H p i k)
    (he : ∀ j seconds b u u', event ≠ .stmt j (.valkey (.expire k seconds)) (.ok b) u u') :
    Begun (event :: H) p i k := by
  obtain ⟨r, t, t', hincr, hnone⟩ := h.incr
  refine ⟨⟨r, t, t', hincr.cons, hnone⟩, fun h' j seconds b u u' hocc => ?_⟩
  rcases occurs_cons.1 hocc with ⟨heq, -⟩ | hold
  · exact absurd heq.symm (he j seconds b u u')
  · exact h.since h' j seconds b u u' hold

/-- Later events change a counter's entry when they answer an `EXPIRE`. -/
theorem CountEntry.cons {e : Slot} (h : CountEntry H k e)
    (he : ∀ j seconds b u u', event ≠ .stmt j (.valkey (.expire k seconds)) (.ok b) u u') :
    CountEntry (event :: H) k e := by
  refine ⟨h.positive, fun d hd => ?_, fun hnone => ?_⟩
  · obtain ⟨p, i, seconds, r, u, u', hocc, hd⟩ := h.timed d hd
    exact ⟨p, i, seconds, r, u, u', hocc.cons, hd⟩
  · obtain ⟨p, i, hbegun⟩ := h.untimed hnone
    exact ⟨p, i, hbegun.cons he⟩

/-- An entry that has a deadline keeps it. -/
theorem CountEntry.cons_timed {e : Slot} (h : CountEntry H k e) (hd : e.deadline ≠ none) :
    CountEntry (event :: H) k e := by
  refine ⟨h.positive, fun d hd' => ?_, fun hnone => absurd hnone hd⟩
  obtain ⟨p, i, seconds, r, u, u', hocc, hd'⟩ := h.timed d hd'
  exact ⟨p, i, seconds, r, u, u', hocc.cons, hd'⟩

theorem Counting.cons (h : Counting k H s) (hkeys : s'.keys k = s.keys k)
    (he : ∀ j seconds b u u', event ≠ .stmt j (.valkey (.expire k seconds)) (.ok b) u u') :
    Counting k (event :: H) s' := by
  intro e hslot
  exact (h e (hkeys ▸ hslot)).cons he

/-- **Counting keeps counters**, and begins those that are gone. -/
theorem Counting.incr (h : Counting k H s) {i : ℕ} {r : Except ValkeyError ℤ}
    (hstmt : WebStmt env (.valkey (.incr k)) s r s') :
    Counting k (.stmt i (.valkey (.incr k)) r s s' :: H) s' := by
  rcases hstmt.valkey_keys with hkeys | ⟨n, hn⟩
  · exact h.cons (by rw [hkeys]) (by simp)
  · intro e hslot
    rcases incr_ok hn with ⟨hnone, -, hkeys⟩ | ⟨e₀, m, he₀, hm, -, hkeys⟩
    · rw [hkeys, Keyspace.set_self] at hslot
      obtain rfl := Option.some.inj hslot
      refine ⟨⟨1, Nat.one_pos, rfl⟩, (by simp), fun _ => ⟨H, i, ⟨r, s, s', occurs_self, hnone⟩, ?_⟩⟩
      intro h' j seconds b u u' hocc
      rcases occurs_cons.1 hocc with ⟨heq, -⟩ | hold
      · cases heq
      · exact hold.past
    · rw [hkeys, Keyspace.set_self] at hslot
      obtain rfl := Option.some.inj hslot
      have hentry := h e₀ (Keyspace.lookup_eq_some.1 he₀).1
      obtain ⟨n₀, hpos, hvalue⟩ := hentry.positive
      rw [hvalue] at hm
      obtain rfl := Option.some.inj hm
      have hcons : CountEntry (.stmt i (.valkey (.incr k)) r s s' :: H) k e₀ := hentry.cons (by simp)
      exact ⟨⟨n₀ + 1, Nat.succ_pos n₀, rfl⟩, hcons.timed, hcons.untimed⟩

/-- An `EXPIRE` that fails is not answered. -/
theorem failed_ne_answered {i j : ℕ} {seconds seconds' : ℤ} {e : ValkeyError} {b : Bool} {u u' : WebState} :
    (.stmt i (.valkey (.expire k seconds)) (.error e) s s' :
      Event WebOp WebRet WebRequest (Except WebError WebResponse) WebState) ≠
        .stmt j (.valkey (.expire k seconds')) (.ok b) u u' := by
  rintro ⟨⟩

/-- **Giving a counter its lifetime** leaves it with a deadline, unless the command has failed. -/
theorem Counting.expire (h : Counting k H s) {i : ℕ} {seconds : ℤ} {r : Except ValkeyError Bool}
    (hstmt : WebStmt env (.valkey (.expire k seconds)) s r s') :
    Counting k (.stmt i (.valkey (.expire k seconds)) r s s' :: H) s' := by
  have hexecuted : ∀ {b : Bool}, (Command.expire k seconds).apply s.app.clock s.keys = .ok (b, s'.keys) →
      Counting k (.stmt i (.valkey (.expire k seconds)) r s s' :: H) s' := by
    intro b hb e hslot
    rcases expire_cases hb with ⟨hnone, hkeys⟩ | ⟨e₀, he₀, hkeys | hkeys⟩
    · -- Only a counter that has expired is left alone.
      rw [hkeys] at hslot
      refine (h e hslot).cons_timed fun hdeadline => ?_
      have hlive : e.live s.app.clock = true := by rw [Slot.live, hdeadline]; rfl
      rw [Keyspace.lookup_eq_some.2 ⟨hslot, hlive⟩] at hnone
      cases hnone
    · rw [hkeys, Keyspace.erase_self] at hslot
      cases hslot
    · rw [hkeys, Keyspace.set_self] at hslot
      obtain rfl := Option.some.inj hslot
      have hpositive := (h e₀ (Keyspace.lookup_eq_some.1 he₀).1).positive
      exact ⟨hpositive, fun d hd => ⟨H, i, seconds, r, s, s', occurs_self, (Option.some.inj hd).symm⟩,
        fun hnone => absurd hnone (Option.some_ne_none _)⟩
  rcases r with e | b
  · rcases hstmt.valkey_keys with hkeys | ⟨b, hb⟩
    · exact h.cons (by rw [hkeys]) fun j _ b u u' => failed_ne_answered
    · exact hexecuted hb
  · exact hexecuted hstmt.valkey_ok

end Counting

/-! ### The three kinds -/

/-- The keys that the service uses. -/
inductive ServiceKey : String → Prop
  | state (state : String) : ServiceKey (StateStore.stateKey state)
  | exchange (code : String) : ServiceKey (StateStore.exchangeKey code)
  | counter (endpoint ip : String) (window : ℕ) : ServiceKey (RateLimiter.key endpoint ip window)

theorem Sends.serviceKey {q : WebRequest} {log : Log WebOp WebRet} {command : Command}
    (hs : Sends env q log command) : ServiceKey command.key := by
  cases hs with
  | insert _ hk => exact hk ▸ .state _
  | take _ _ hk => exact hk ▸ .state _
  | storeExchange hk => exact hk ▸ .exchange _
  | takeExchange hk => exact hk ▸ .exchange _
  | incr hk => exact hk ▸ .counter _ _ _
  | expire hk => exact hk ▸ .counter _ _ _

/-- The commands on a counter. -/
theorem Sends.of_counter {q : WebRequest} {log : Log WebOp WebRet} {command : Command}
    (hs : Sends env q log command) {endpoint ip : String} {window : ℕ}
    (hkey : command.key = RateLimiter.key endpoint ip window) :
    command = .incr (RateLimiter.key endpoint ip window) ∨
      ∃ seconds, command = .expire (RateLimiter.key endpoint ip window) seconds := by
  cases hs with
  | insert _ hk => exact absurd (hkey.symm.trans hk) (RateLimiter.key_ne_stateKey _ _ _ _)
  | take _ _ hk => exact absurd (hkey.symm.trans hk) (RateLimiter.key_ne_stateKey _ _ _ _)
  | storeExchange hk => exact absurd (hkey.symm.trans hk) (RateLimiter.key_ne_exchangeKey _ _ _ _)
  | takeExchange hk => exact absurd (hkey.symm.trans hk) (RateLimiter.key_ne_exchangeKey _ _ _ _)
  | incr hk =>
    obtain rfl := hkey
    exact Or.inl rfl
  | expire hk =>
    obtain rfl := hkey
    exact Or.inr ⟨_, rfl⟩

/-- Only the keys of the service hold something. -/
def OnlyServiceKeys (s : WebState) : Prop := ∀ k e, s.keys k = some e → ServiceKey k

/-- What is at a key of Valkey after `H`. -/
inductive StoredEntry (env : WebEnv) (H : WebTrace) : String → Slot → Prop
  /-- The verifier of an authorization whose callback has not come yet, for ten minutes. -/
  | pending {p : WebTrace} {i : ℕ} {provider : OAuthProvider} {state verifier : String} {t : WebState}
    (ha : Authorized env H p i provider state verifier t)
    (htaken : ∀ h j x u, IsTaken H h j (StateStore.stateKey state) x u → h <:+ p) :
    StoredEntry env H (StateStore.stateKey state)
      ⟨.text (env.pendingToJson (StateStore.pending provider verifier)),
        some (t.app.clock + StateStore.stateTtlSecs * 1000000)⟩
  /-- The response that a callback has left for a session, for two minutes. -/
  | exchange {p : WebTrace} {i : ℕ} {code : String} {auth : AuthResponse} {t : WebState}
    (ha : Exchanged env H p i code auth t)
    (htaken : ∀ h j x u, IsTaken H h j (StateStore.exchangeKey code) x u → h <:+ p) :
    StoredEntry env H (StateStore.exchangeKey code)
      ⟨.text (env.authToJson auth), some (t.app.clock + StateStore.exchangeTtlSecs * 1000000)⟩
  | counter {endpoint ip : String} {window : ℕ} {e : Slot}
    (hcount : CountEntry H (RateLimiter.key endpoint ip window) e) :
    StoredEntry env H (RateLimiter.key endpoint ip window) e

/-- Entries without a deadline are counters. -/
theorem StoredEntry.begun {H : WebTrace} {k : String} {e : Slot} (hentry : StoredEntry env H k e)
    (hd : e.deadline = none) : ∃ p i, Begun H p i k := by
  cases hentry with
  | pending => exact absurd hd (Option.some_ne_none _)
  | exchange => exact absurd hd (Option.some_ne_none _)
  | counter hcount => exact hcount.untimed hd

/-! ### Expiration -/

/-- A check that has begun a counter has not been decided. -/
theorem Checked.not_begun {q : Check} {l : Log WebOp WebRet} {x : Except ℕ ℕ} (h : Checked env q l x)
    {k : String} {now : ℕ} : ¬ l <:+ [⟨.valkey (.incr k), .ok (1 : ℤ)⟩, ⟨.systemTime, now⟩] := by
  intro hl
  cases h with
  | uncounted e =>
    have heq := hl.eq_of_length rfl
    cases heq
  | negative hneg =>
    have heq := hl.eq_of_length rfl
    cases heq
    exact absurd hneg (by decide)
  | unexpired e => exact absurd hl.length_le (by simp)
  | first b => exact absurd hl.length_le (by simp)
  | counted hneg hone =>
    have heq := hl.eq_of_length rfl
    cases heq
    exact hone rfl

/-- Only its `EXPIRE` follows when a check has begun a counter. -/
theorem Check.Asks.after_incr {q : Check} {k : String} {now : ℕ} {o : WebOp}
    (h : q.Asks env [⟨.valkey (.incr k), .ok (1 : ℤ)⟩, ⟨.systemTime, now⟩] o) :
    (∃ seconds, o = .valkey (.expire k seconds)) ∨ o = .app .abort := by
  unfold Check.Asks at h
  split at h
  · cases h
  · obtain ⟨now', heq, -⟩ := h
    cases heq
  · obtain ⟨now', heq, -⟩ := h
    cases heq
    exact Or.inl ⟨_, rfl⟩
  · exact Or.inr rfl
  · exact h.elim

/-- Request `i`, which has begun the counter, has still to give it its lifetime, or a command of the request
on the counter has failed. -/
def Unfinished (H : WebTrace) (i : ℕ) (k : String) : Prop :=
  (∃ now : ℕ, localLog i H = [⟨.valkey (.incr k), .ok (1 : ℤ)⟩, ⟨.systemTime, now⟩]) ∨
    ∃ command error, ⟨.valkey command, .error error⟩ ∈ localLog i H ∧ command.key = k

/-- The longest time that an entry is given. -/
def longestTtlSecs (env : WebEnv) : ℕ := max StateStore.stateTtlSecs (RateLimiter.lifetime env).toNat

/-! ### Runs -/

section Runs

variable {clock : ℕ} {c : Pool WebOp WebRet WebRequest (Except WebError WebResponse) WebState} {h : WebTrace}
  {i : ℕ} {k : String} {s s' : WebState}

section Checks

variable {s₀ : WebState} (hc : (web env).Reachable s₀ c)

include hc

/-- A request is counted by its check, right after the clock has been read. -/
theorem stmt_incr {r : Except ValkeyError ℤ} (he : Occurs c.history h (.stmt i (.valkey (.incr k)) r s s')) :
    ∃ q check, ∃ now : ℕ, .start i q ∈ h ∧ q.check = some check ∧ localLog i h = [⟨.systemTime, now⟩] ∧
      k = check.key env now := by
  obtain ⟨q, hq, ⟨check, hcheck, now, hlog, hk⟩ | ⟨-, hcounts⟩⟩ := hc.at_stmt webHandle_gated he
  · exact ⟨q, check, now, hq, hcheck, hlog, hk⟩
  · cases hcounts

/-- A counter is given its lifetime by the request that has begun it. -/
theorem stmt_expire {seconds : ℤ} {r : Except ValkeyError Bool}
    (he : Occurs c.history h (.stmt i (.valkey (.expire k seconds)) r s s')) :
    (∃ now : ℕ, localLog i h = [⟨.valkey (.incr k), .ok (1 : ℤ)⟩, ⟨.systemTime, now⟩]) ∧
      seconds = RateLimiter.lifetime env := by
  obtain ⟨q, hq, ⟨check, hcheck, now, hlog, hk, hseconds⟩ | ⟨-, hcounts⟩⟩ := hc.at_stmt webHandle_gated he
  · exact ⟨⟨now, hlog⟩, hseconds⟩
  · cases hcounts

end Checks

variable (hc : (web env).Reachable (.fresh clock) c)

include hc

/-- **Counters count**, at every point of a run. -/
theorem counting (endpoint ip : String) (window : ℕ) :
    Counting (RateLimiter.key endpoint ip window) c.history c.state ∧
      ∀ {h i o r s s'}, Occurs c.history h (.stmt i o r s s') →
        Counting (RateLimiter.key endpoint ip window) h s := by
  refine hc.past_invariant ?_ ?_ ?_ ?_ ?_
  · intro e he
    cases he
  · intro H s s' ht hinv
    obtain ⟨t, -, rfl⟩ := ht
    exact hinv
  · exact fun hinv => hinv.cons rfl (by simp)
  · exact fun hinv => hinv.cons rfl (by simp)
  · intro h i o r s s' he hinv
    have hstmt := hc.sem_of_stmt he
    by_cases hkey : ∃ q, o = .valkey q ∧ q.key = RateLimiter.key endpoint ip window
    · obtain ⟨q, rfl, hkey⟩ := hkey
      obtain ⟨request, -, hsends⟩ := sends_of_stmt hc he
      rcases hsends.of_counter hkey with rfl | ⟨seconds, rfl⟩
      · exact hinv.incr hstmt
      · exact hinv.expire hstmt
    · refine hinv.cons ?_ ?_
      · rcases hstmt.keys_cases with hkeys | ⟨q, x, rfl, hx⟩
        · rw [hkeys]
        · exact apply_frame hx fun heq => hkey ⟨q, rfl, heq.symm⟩
      · rintro j seconds b u u' heq
        have ho := (Event.stmt.inj heq).2.1
        exact hkey ⟨_, ho, rfl⟩

/-- **The service uses no other keys.** -/
theorem keys_service : OnlyServiceKeys c.state := by
  refine And.left (hc.always (?_ : OnlyServiceKeys (.fresh clock)) ?_ ?_)
  · intro k e he
    cases he
  · intro s s' ht hinv
    obtain ⟨t, -, rfl⟩ := ht
    exact hinv
  · intro h i o r s s' hocc hinv k e he
    rcases (hc.sem_of_stmt hocc).keys_cases with hkeys | ⟨q, x, rfl, hx⟩
    · exact hinv k e (hkeys ▸ he)
    · by_cases hk : k = q.key
      · obtain ⟨request, -, hsends⟩ := sends_of_stmt hc hocc
        exact hk ▸ hsends.serviceKey
      · exact hinv k e (apply_frame hx hk ▸ he)

/-- **Everything that is stored** belongs to one of the three kinds. -/
theorem store_entries {e : Slot} (he : c.state.keys k = some e) : StoredEntry env c.history k e := by
  cases keys_service hc k e he with
  | state state =>
    obtain ⟨p, i, value, t, hstored, rfl, htaken⟩ :=
      (entry_sound (fun h => h) (fun h => h) hc (oneTime_stateKey hc state)).1 e he
    obtain ⟨provider, verifier, ha, rfl⟩ := authorized_of_stored hc hstored
    exact .pending ha htaken
  | exchange code =>
    obtain ⟨p, i, value, t, hstored, rfl, htaken⟩ :=
      (entry_sound (fun h => h) (fun h => h) hc (oneTime_exchangeKey hc code)).1 e he
    obtain ⟨auth, ha, rfl⟩ := exchanged_of_stored hc hstored
    exact .exchange ha htaken
  | counter endpoint ip window => exact .counter ((counting hc endpoint ip window).1 e he)

/-- A verifier that is taken is that of an authorization. -/
theorem take_pending {state raw : String}
    (htaken : IsTaken c.history h i (StateStore.stateKey state) (some raw) s) :
    ∃ j p provider verifier t, Authorized env h p j provider state verifier t ∧
      raw = env.pendingToJson (StateStore.pending provider verifier) := by
  obtain ⟨p, j, t, hstored, -, -⟩ :=
    take_entry (fun h => h) (fun h => h) hc (oneTime_stateKey hc state) htaken
  obtain ⟨s', he⟩ := htaken
  obtain ⟨provider, verifier, ha, rfl⟩ := authorized_of_stored hc (hstored.of_suffix he.past)
  exact ⟨j, p, provider, verifier, t, ⟨ha.request, ha.generated, hstored⟩, rfl⟩

/-- What is found at a counter when a request is counted. -/
theorem counted_entry {r : Except ValkeyError ℤ} {e : Slot}
    (he : Occurs c.history h (.stmt i (.valkey (.incr k)) r s s')) (hslot : s.keys k = some e) :
    CountEntry h k e := by
  obtain ⟨q, check, now, -, -, -, rfl⟩ := stmt_incr hc he
  exact (counting hc _ _ _).2 he e hslot

/-- In a run, everything that is stored is of one of the three kinds, and whoever reads it can decode it. -/
structure StoreSound (env : WebEnv)
    (c : Pool WebOp WebRet WebRequest (Except WebError WebResponse) WebState) : Prop where
  entries : ∀ {k e}, c.state.keys k = some e → StoredEntry env c.history k e
  /-- A callback gets the verifier, unless the authorization is another provider's. -/
  verifier : ∀ {h i state expected raw s}, IsTaken c.history h i (StateStore.stateKey state) (some raw) s →
    ∃ j p provider verifier t, Authorized env h p j provider state verifier t ∧
      StateStore.verifierOf env raw expected =
        if provider ≠ expected then .error (.providerMismatch expected provider) else .ok verifier
  /-- A session gets a response. -/
  response : ∀ {h i code raw s}, IsTaken c.history h i (StateStore.exchangeKey code) (some raw) s →
    ∃ j p auth t, Exchanged env h p j code auth t ∧ env.authFromJson raw = some auth
  /-- No counter is negative or zero. -/
  counted : ∀ {i k n s s'}, .stmt i (.valkey (.incr k)) (.ok n) s s' ∈ c.history → 0 < (n : ℤ)
  /-- What is counted is a number. -/
  integer : ∀ {i k r s s'}, .stmt i (.valkey (.incr k)) r s s' ∈ c.history →
    (Command.incr k).apply s.app.clock s.keys ≠ .error .notAnInteger

/-- **The store is sound**, whatever clients send, however requests interleave and whatever fails. -/
theorem store_sound (hx : env.Exact) : StoreSound env c := by
  refine ⟨fun he => store_entries hc he, fun htaken => ?_, fun htaken => ?_, fun hm => ?_, fun hm => ?_⟩
  · obtain ⟨j, p, provider, verifier, t, ha, rfl⟩ := take_pending hc htaken
    exact ⟨j, p, provider, verifier, t, ha, verifierOf_pending hx provider _ verifier⟩
  · obtain ⟨j, p, auth, t, rfl, ha, -⟩ := take_exchanged hc htaken
    exact ⟨j, p, auth, t, ha, hx.auth_json auth⟩
  · obtain ⟨h, he⟩ := exists_occurs hm
    rcases incr_ok (web_stmt hc hm).valkey_ok with ⟨-, rfl, -⟩ | ⟨e, m, hfound, hm', rfl, -⟩
    · exact Int.one_pos
    · obtain ⟨n, hpos, hvalue⟩ := (counted_entry hc he (Keyspace.lookup_eq_some.1 hfound).1).positive
      rw [hvalue] at hm'
      obtain rfl := Option.some.inj hm'
      omega
  · obtain ⟨h, he⟩ := exists_occurs hm
    intro hrefused
    simp only [Command.apply] at hrefused
    split at hrefused
    · cases hrefused
    · next e hfound =>
      obtain ⟨n, hpos, hvalue⟩ := (counted_entry hc he (Keyspace.lookup_eq_some.1 hfound).1).positive
      rw [hvalue] at hrefused
      simp only [Value.number?] at hrefused
      split at hrefused
      · cases hrefused
      · cases hrefused

/-- **A counter without a deadline** is one whose first request has not finished, or has met a failure at the
counter. -/
theorem Begun.unfinished {p : WebTrace} (hb : Begun c.history p i k) : Unfinished c.history i k := by
  obtain ⟨r, t, t', he, hnone⟩ := hb.incr
  obtain ⟨q, check, now, hq, hcheck, hlog, -⟩ := stmt_incr hc he
  rcases r with e | n
  · exact Or.inr ⟨_, e, mem_localLog_of_stmt he.mem, rfl⟩
  · rcases incr_ok (web_stmt hc he.mem).valkey_ok with ⟨-, rfl, -⟩ | ⟨e, m, hfound, -⟩
    · have hlog' : localLog i (.stmt i (.valkey (.incr k)) (.ok (1 : ℤ)) t t' :: p) =
          [⟨.valkey (.incr k), .ok (1 : ℤ)⟩, ⟨.systemTime, now⟩] := by rw [localLog_stmt_self, hlog]
      obtain ⟨l, hl⟩ := localLog_suffix (i := i) he
      rw [hlog'] at hl
      rcases List.eq_nil_or_concat l with rfl | ⟨l, ⟨o, r⟩, rfl⟩
      · exact Or.inl ⟨now, hl.symm⟩
      · -- The request has gone on: only the `EXPIRE` can follow.
        rw [List.concat_append] at hl
        obtain ⟨h', u, u', hocc, hlogh⟩ := exists_occurs_of_suffix ⟨l, hl⟩
        rcases hc.at_stmt webHandle_gated hocc with ⟨q', hq', ⟨check', -, hasks⟩ | ⟨hadmitted, -⟩⟩
        · rw [hlogh] at hasks
          rcases hasks.after_incr with ⟨seconds, rfl⟩ | rfl
          · rcases r with e | b
            · exact Or.inr ⟨_, e, mem_localLog_of_stmt hocc.mem, rfl⟩
            · have hle := (localLog_suffix (i := i) (hb.since _ _ _ _ _ _ hocc)).length_le
              rw [hlogh, hlog] at hle
              exact absurd hle (by simp)
          · exact (r : Empty).elim
        · obtain rfl := hc.numbered.start_unique (he.past.subset hq) (hocc.past.subset hq')
          obtain ⟨l', remaining, hchecked, hl'⟩ := hadmitted check hcheck
          rw [hlogh] at hl'
          exact absurd hl' hchecked.not_begun
    · rw [WebState.lookup, hfound] at hnone
      cases hnone

/-- A request that has begun a counter and has finished has met a failure, if the counter has no
deadline. -/
theorem Begun.failed {p : WebTrace} (hb : Begun c.history p i k) {a : Except WebError WebResponse}
    (hdone : .done i a ∈ c.history) : ∃ x ∈ localLog i c.history, ¬ Answered x := by
  obtain ⟨r, t, t', he, -⟩ := hb.incr
  obtain ⟨q, check, -, hq, hcheck, -, -⟩ := stmt_incr hc he
  rcases hb.unfinished hc with ⟨now, hlog⟩ | ⟨command, error, hm, -⟩
  · -- A request that has got no further has not been decided.
    obtain ⟨g, hg⟩ := exists_occurs hdone
    obtain ⟨q', hq', hend⟩ := hc.at_done webHandle_gated hg
    obtain rfl := hc.numbered.start_unique (he.past.subset hq) (hg.past.subset hq')
    rw [← hc.localLog_of_done hg, hlog] at hend
    rcases a with e | x
    · rcases hend check hcheck with ⟨retryAfter, -, hchecked⟩ | ⟨-, hadmitted⟩
      · exact absurd List.suffix_rfl hchecked.not_begun
      · obtain ⟨l, remaining, hchecked, hl⟩ := hadmitted check hcheck
        exact absurd hl hchecked.not_begun
    · obtain ⟨l, remaining, hchecked, hl⟩ := hend check hcheck
      exact absurd hl hchecked.not_begun
  · exact ⟨_, hm, id⟩

/-- The deadline of an entry is not far away. -/
theorem StoredEntry.deadline_le {e : Slot} (hentry : StoredEntry env c.history k e) {d : ℕ}
    (hd : e.deadline = some d) : d ≤ c.state.app.clock + longestTtlSecs env * 1000000 := by
  have hclock : ∀ {h i o r s s'}, Occurs c.history h (.stmt i o r s s') →
      s.app.clock ≤ c.state.app.clock :=
    fun hocc => ((web_stmt hc hocc.mem).le.trans (web_le_state hc hocc.mem)).clock
  cases hentry with
  | pending ha =>
    obtain ⟨r, t', hocc⟩ := ha.stored
    obtain rfl := Option.some.inj hd
    exact Nat.add_le_add (hclock hocc) (Nat.mul_le_mul_right _ (Nat.le_max_left _ _))
  | exchange ha =>
    obtain ⟨r, t', hocc⟩ := ha.stored
    obtain rfl := Option.some.inj hd
    exact Nat.add_le_add (hclock hocc) (Nat.mul_le_mul_right _ ((Nat.le_max_left _ _).trans' (by decide)))
  | counter hcount =>
    obtain ⟨h, i, seconds, r, u, u', hocc, rfl⟩ := hcount.timed d hd
    obtain ⟨-, hseconds⟩ := stmt_expire hc hocc
    rw [hseconds]
    exact Nat.add_le_add (hclock hocc) (Nat.mul_le_mul_right _ (Nat.le_max_right _ _))

/-- In a run, keys expire. -/
structure Expiring (env : WebEnv)
    (c : Pool WebOp WebRet WebRequest (Except WebError WebResponse) WebState) : Prop where
  /-- An entry has a deadline, unless it is a counter whose first request has not finished or has met a
  failure at the counter. -/
  deadline : ∀ {k e}, c.state.keys k = some e →
    (∃ d, e.deadline = some d ∧ d ≤ c.state.app.clock + longestTtlSecs env * 1000000) ∨
      e.deadline = none ∧ ∃ p i, Begun c.history p i k ∧ Unfinished c.history i k
  /-- When all requests have finished and Valkey has not failed, nothing outlives the longest lifetime. -/
  drained : (∀ {i q}, .start i q ∈ c.history → ∃ a, .done i a ∈ c.history) →
    (∀ {i x}, x ∈ localLog i c.history → Answered x) → ∀ {t},
      c.state.app.clock + longestTtlSecs env * 1000000 < t → ∀ k, c.state.keys.lookup t k = none

/-- **Every key expires**: the service leaves nothing behind in Valkey. -/
theorem keys_expire : Expiring env c := by
  refine ⟨fun {k e} he => ?_, fun hfinished hanswered t ht k => ?_⟩
  · have hentry := store_entries hc he
    rcases hd : e.deadline with _ | d
    · obtain ⟨p, i, hbegun⟩ := hentry.begun hd
      exact Or.inr ⟨rfl, p, i, hbegun, hbegun.unfinished hc⟩
    · exact Or.inl ⟨d, rfl, hentry.deadline_le hc hd⟩
  · rcases hlookup : c.state.keys.lookup t k with _ | e
    · rfl
    · obtain ⟨he, hlive⟩ := Keyspace.lookup_eq_some.1 hlookup
      have hentry := store_entries hc he
      rcases hd : e.deadline with _ | d
      · obtain ⟨p, i, hbegun⟩ := hentry.begun hd
        obtain ⟨r, u, u', hincr, -⟩ := hbegun.incr
        obtain ⟨q, check, now, hq, -⟩ := stmt_incr hc hincr
        obtain ⟨a, hdone⟩ := hfinished (hincr.past.subset hq)
        obtain ⟨x, hx, hfailed⟩ := hbegun.failed hc hdone
        exact absurd (hanswered hx) hfailed
      · have hle := hentry.deadline_le hc hd
        rw [Slot.live, hd] at hlive
        have hread : t ≤ d := of_decide_eq_true hlive
        omega

end Runs

/-- A pending authorization is stored, taken for the other provider, and found to be the other's. -/
theorem store_sound_of_mismatch : ∃ c, (web demoWeb).Reachable (.fresh 0) c ∧
    System.outcome 1 c.history = some (.error (.oauth (.providerMismatch .gitHub .google))) ∧
      StoreSound demoWeb c := by
  obtain ⟨c, hc, hobs⟩ := exists_web_run demoWeb noAnswers 0
    ([.start (.authorize "google")] ++ System.goes 0 3 ++
      [.start (.callback "github" ⟨some "code", some (tally 1), none, none⟩)] ++ System.goes 1 1)
    (fun c => System.outcome 1 c.history)
    (some (.error (.oauth (.providerMismatch .gitHub .google)))) (by decide +kernel)
  exact ⟨c, hc, hobs, store_sound hc demoWeb_exact⟩

/-- A session has begun its counter, and has not got any further. -/
theorem keys_expire_of_unfinished : ∃ c, (web demoWeb).Reachable (.fresh 0) c ∧
    c.state.keys (RateLimiter.key "post:/auth/session" "unknown" 0) = some ⟨.number 1, none⟩ ∧
      Expiring demoWeb c := by
  obtain ⟨c, hc, hobs⟩ := exists_web_run demoWeb noAnswers 0
    ([.start (.session ⟨none, none⟩ "guess")] ++ System.goes 0 2)
    (fun c => c.state.keys (RateLimiter.key "post:/auth/session" "unknown" 0))
    (some ⟨.number 1, none⟩) (by decide +kernel)
  exact ⟨c, hc, hobs, keys_expire hc⟩

end Socle
