import Socle.Web.OAuth
import Socle.Web.RateLimit

/-!
# Keys

Three kinds of entries share the key space of Valkey: pending authorizations, exchange codes, and the
counters of the rate limiter.  No text that a client can choose makes two of them meet.

* `stateKey_ne_exchangeKey`, `key_ne_stateKey`, `key_ne_exchangeKey`: the kinds are disjoint;
* `stateKey_injective`, `exchangeKey_injective`;
* `RateLimiter.key_inj`: a counter determines its bucket and its window;
* `RateLimiter.bucket_injective`: for the paths behind the rate limiter, a bucket determines the path
  and the address;
* `RateLimiter.key_injective`: whatever the method, a counter determines endpoint, address and window.
-/

namespace Socle

namespace StateStore

theorem stateKey_injective : Function.Injective stateKey := by
  intro s t h
  simpa [stateKey, keyPrefix] using h

theorem exchangeKey_injective : Function.Injective exchangeKey := by
  intro s t h
  simpa [exchangeKey, exchangePrefix] using h

theorem stateKey_ne_exchangeKey (state code : String) : stateKey state ≠ exchangeKey code := by
  intro h
  have hlist := congrArg String.toList h
  simp [stateKey, exchangeKey, keyPrefix, exchangePrefix, String.toList_append] at hlist

end StateStore

namespace RateLimiter

theorem key_ne_stateKey (endpoint ip : String) (window : ℕ) (state : String) :
    key endpoint ip window ≠ StateStore.stateKey state := by
  intro h
  have hlist := congrArg String.toList h
  simp [key, bucket, StateStore.stateKey, StateStore.keyPrefix, String.toList_append] at hlist

theorem key_ne_exchangeKey (endpoint ip : String) (window : ℕ) (code : String) :
    key endpoint ip window ≠ StateStore.exchangeKey code := by
  intro h
  have hlist := congrArg String.toList h
  simp [key, bucket, StateStore.exchangeKey, StateStore.exchangePrefix, String.toList_append] at hlist

/-- What follows the last separator is determined by the whole. -/
theorem append_cons_inj {α : Type} {a : α} {xs ys ds es : List α} (hds : a ∉ ds) (hes : a ∉ es)
    (h : xs ++ a :: ds = ys ++ a :: es) : xs = ys ∧ ds = es := by
  rcases List.append_eq_append_iff.1 h with ⟨as, rfl, has⟩ | ⟨as, rfl, has⟩
  · rcases as with _ | ⟨b, as⟩
    · simpa using has
    · obtain ⟨rfl, rfl⟩ := List.cons.inj has
      exact absurd (List.mem_append_right _ List.mem_cons_self) hds
  · rcases as with _ | ⟨b, as⟩
    · simpa [eq_comm] using has
    · obtain ⟨rfl, rfl⟩ := List.cons.inj has
      exact absurd (List.mem_append_right _ List.mem_cons_self) hes

/-- So is what precedes the first separator. -/
theorem append_cons_inj_left {α : Type} {a : α} {xs ys ds es : List α} (hxs : a ∉ xs) (hys : a ∉ ys)
    (h : xs ++ a :: ds = ys ++ a :: es) : xs = ys ∧ ds = es := by
  rcases List.append_eq_append_iff.1 h with ⟨as, rfl, has⟩ | ⟨as, rfl, has⟩
  · rcases as with _ | ⟨b, as⟩
    · simpa using has
    · obtain ⟨rfl, -⟩ := List.cons.inj has
      exact absurd (List.mem_append_right _ List.mem_cons_self) hys
  · rcases as with _ | ⟨b, as⟩
    · simpa [eq_comm] using has
    · obtain ⟨rfl, -⟩ := List.cons.inj has
      exact absurd (List.mem_append_right _ List.mem_cons_self) hxs

theorem colon_notMem_toString (n : ℕ) : ':' ∉ (toString n).toList := by
  rw [Nat.toString_eq_repr, Nat.toList_repr]
  intro h
  have hdigit := Nat.isDigit_of_mem_toDigits (by decide) (by decide) h
  exact absurd hdigit (by decide)

theorem toList_key (endpoint ip : String) (window : ℕ) : (key endpoint ip window).toList =
    ("rl:" ++ endpoint ++ ":" ++ ip).toList ++ ':' :: (toString window).toList := by
  have hcolon : ":".toList = [':'] := rfl
  rw [key, bucket, String.toList_append, String.toList_append, hcolon, List.append_assoc,
    List.singleton_append]

/-- A counter determines its bucket and its window. -/
theorem key_inj {endpoint ip endpoint' ip' : String} {window window' : ℕ} :
    key endpoint ip window = key endpoint' ip' window' ↔
      bucket endpoint ip = bucket endpoint' ip' ∧ window = window' := by
  constructor
  · intro h
    have hlist := congrArg String.toList h
    rw [toList_key, toList_key] at hlist
    obtain ⟨hstem, hdigits⟩ :=
      append_cons_inj (colon_notMem_toString window) (colon_notMem_toString window') hlist
    refine ⟨?_, ?_⟩
    · rw [bucket, bucket, String.toList_injective hstem]
    · have hvalue := congrArg (fun ds => Nat.ofDigitChars 10 ds 0) hdigits
      simpa [Nat.toString_eq_repr] using hvalue
  · rintro ⟨hbucket, rfl⟩
    rw [key, hbucket, key]

/-! ### Methods and paths -/

/-- The characters of a `token`. -/
def isTokenChar (c : Char) : Bool := c.isAlphanum || "!#$%&'*+-.^_`|~".toList.contains c

/-- `http::Method`: a token that is not empty. -/
def IsMethod (method : String) : Prop := method ≠ "" ∧ ∀ c ∈ method.toList, isTokenChar c = true

instance (method : String) : Decidable (IsMethod method) :=
  @instDecidableAnd _ _ _ (List.decidableBAll _ _)

theorem toLower_eq_colon {c : Char} (h : c.toLower = ':') : c = ':' := by
  unfold Char.toLower at h
  split at h
  · next hupper =>
    -- A letter becomes a letter.
    have hval := congrArg (fun c => c.val.toNat) h
    have hle : c.val.toNat ≤ 90 := UInt32.le_iff_toNat_le.1 hupper.2
    have hge : 65 ≤ c.val.toNat := UInt32.le_iff_toNat_le.1 hupper.1
    rw [UInt32.toNat_add] at hval
    have hcolon : (c.val.toNat + 32) % 2 ^ 32 = 58 := hval
    omega
  · exact h

theorem colon_notMem_method {method : String} (h : IsMethod method) :
    ':' ∉ (toLowercase method).toList := by
  intro hmem
  rw [toLowercase, String.toList_ofList] at hmem
  obtain ⟨c, hc, hlower⟩ := List.mem_map.1 hmem
  have htoken := h.2 c hc
  rw [toLower_eq_colon hlower] at htoken
  exact absurd htoken (by decide)

theorem colon_notMem_path : ∀ path ∈ limitedPaths, ':' ∉ path.toList := by decide

/-- The fields of a bucket, each before its separator. -/
theorem toList_bucket (method path ip : String) : (bucket (endpointKey method path) ip).toList =
    "rl:".toList ++ ((toLowercase method).toList ++ ':' :: (path.toList ++ ':' :: (ip ++ ":").toList)) := by
  have hcolon : ":".toList = [':'] := rfl
  simp only [bucket, endpointKey, String.toList_append, hcolon, List.append_assoc, List.cons_append,
    List.nil_append]

/-- A bucket determines the method up to case, the path and the address. -/
theorem bucket_inj_of_method {method method' path path' ip ip' : String} (hmethod : IsMethod method)
    (hmethod' : IsMethod method') (hpath : path ∈ limitedPaths) (hpath' : path' ∈ limitedPaths)
    (h : bucket (endpointKey method path) ip = bucket (endpointKey method' path') ip') :
    toLowercase method = toLowercase method' ∧ path = path' ∧ ip = ip' := by
  have hlist := congrArg String.toList h
  rw [toList_bucket, toList_bucket, List.append_cancel_left_eq] at hlist
  -- The method ends at the first colon, and the path at the next one.
  obtain ⟨hlower, hrest⟩ :=
    append_cons_inj_left (colon_notMem_method hmethod) (colon_notMem_method hmethod') hlist
  obtain ⟨hpaths, hips⟩ :=
    append_cons_inj_left (colon_notMem_path _ hpath) (colon_notMem_path _ hpath') hrest
  exact ⟨String.toList_injective hlower, String.toList_injective hpaths,
    by simpa using String.toList_injective hips⟩

/-- On the paths behind the rate limiter, a bucket determines the path and the address. -/
theorem bucket_injective {path path' ip ip' : String} (hpath : path ∈ limitedPaths)
    (hpath' : path' ∈ limitedPaths)
    (h : bucket (endpointKey "POST" path) ip = bucket (endpointKey "POST" path') ip') :
    path = path' ∧ ip = ip' :=
  (bucket_inj_of_method (by decide) (by decide) hpath hpath' h).2

/-- **Buckets never collide.**  For all methods, for the paths behind the rate limiter and for any
addresses and windows, equal counters have equal endpoints, addresses and windows. -/
theorem key_injective {method method' path path' ip ip' : String} {window window' : ℕ}
    (hmethod : IsMethod method) (hmethod' : IsMethod method') (hpath : path ∈ limitedPaths)
    (hpath' : path' ∈ limitedPaths)
    (h : key (endpointKey method path) ip window = key (endpointKey method' path') ip' window') :
    endpointKey method path = endpointKey method' path' ∧ ip = ip' ∧ window = window' := by
  obtain ⟨hbucket, hwindow⟩ := key_inj.1 h
  obtain ⟨hlower, hpaths, hip⟩ := bucket_inj_of_method hmethod hmethod' hpath hpath' hbucket
  exact ⟨by rw [endpointKey, hlower, hpaths, endpointKey], hip, hwindow⟩

/-- The methods `POST` and `post` share their counters, also for an address with colons. -/
theorem key_injective_of_post : ∃ endpoint ip window,
    key (endpointKey "POST" "/auth/login") "::1" 7 = key endpoint ip window ∧
      endpointKey "POST" "/auth/login" = endpoint ∧ "::1" = ip ∧ 7 = window :=
  ⟨endpointKey "post" "/auth/login", "::1", 7, by decide,
    key_injective (by decide) (by decide) (by decide) (by decide) (by decide)⟩

end RateLimiter

end Socle
