import Socle.Model.Statements

/-!
# Ideal primitives

Functions for which the idealised laws hold exactly and which can be computed, so that concrete runs
can be evaluated: strings are hashed by writing them in an injective code without NUL characters, and no
text is too long for an index.
-/

namespace Socle

/-- Two characters for each character of the text, neither of them NUL. -/
def escapeChar (c : Char) : List Char := if c.toNat = 0 then ['0', '0'] else ['1', c]

def escape (s : String) : String := String.ofList (s.toList.flatMap escapeChar)

theorem escapeChar_append {c d : Char} {xs ys : List Char}
    (h : escapeChar c ++ xs = escapeChar d ++ ys) : c = d ∧ xs = ys := by
  have hzero : ∀ {c : Char}, c.toNat = 0 → c = Char.ofNat 0 := by
    intro c hc
    rw [← Char.ofNat_toNat c, hc]
  unfold escapeChar at h
  split at h <;> split at h
  · next hc hd => simp_all
  · simp at h
  · simp at h
  · simpa using h

theorem escape_injective : Function.Injective escape := by
  have hlist : ∀ xs ys : List Char, xs.flatMap escapeChar = ys.flatMap escapeChar → xs = ys := by
    have hne : ∀ c (xs : List Char), escapeChar c ++ xs ≠ [] := by
      intro c xs
      unfold escapeChar
      split <;> simp
    intro xs
    induction xs with
    | nil =>
      rintro (_ | ⟨d, ys⟩) h
      · rfl
      · exact absurd h.symm (hne d _)
    | cons c xs ih =>
      rintro (_ | ⟨d, ys⟩) h
      · exact absurd h (hne c _)
      · obtain ⟨rfl, htail⟩ := escapeChar_append h
        rw [ih ys htail]
  intro s t h
  exact String.toList_injective (hlist _ _ (String.ofList_injective h))

theorem hasNul_escape (s : String) : hasNul (escape s) = false := by
  rw [hasNul, escape, String.toList_ofList, List.any_flatMap, List.any_eq_false]
  intro c _
  unfold escapeChar
  split
  · decide
  · next hc => simpa using hc

/-- A number in unary. -/
def tally (n : ℕ) : String := String.ofList (List.replicate n 'x')

theorem tally_injective : Function.Injective tally := by
  intro m n h
  have hlen := congrArg List.length (String.ofList_injective h)
  simpa using hlen

/-- Primitives without collisions. -/
def Primitives.ideal : Primitives where
  hmacSha256 _ message := escape message
  argon2Hash password _ := some (escape password)
  argon2Verify password hash := some (decide (hash = escape password))
  opaqueToken := tally
  uuidV7 n := n
  jwtEncode secret c :=
    toString c.sub ++ "." ++ toString c.iat ++ "." ++ toString c.exp ++ "." ++ escape c.email ++ "." ++
      escape c.displayName ++ "." ++ c.role.label ++ "." ++
      (if c.authMethod = .password then "password" else "oauth") ++ "." ++ escape secret
  indexRowSize _ := 24

theorem Primitives.ideal_fits (values : List Relational.Value) :
    Primitives.ideal.indexRowSize values ≤ maxIndexRow := by
  show 24 ≤ 2704
  decide

theorem Primitives.ideal_exact : Primitives.ideal.Exact where
  hmac_injective _ := escape_injective
  hmac_noNul _ := hasNul_escape
  hash_total p _ := ⟨escape p, rfl, hasNul_escape p⟩
  verify_hash p q _ h hh := by
    cases hh
    exact congrArg some (decide_eq_decide.2 ⟨fun h => (escape_injective h).symm, fun h => h ▸ rfl⟩)
  token_injective := tally_injective
  uuid_injective _ _ h := h
  uuid_size _ := Primitives.ideal_fits _
  hmac_indexable _ _ := Primitives.ideal_fits _
  hash_indexable _ _ _ _ := Primitives.ideal_fits _

end Socle
