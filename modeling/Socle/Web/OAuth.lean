import Socle.Routes
import Socle.Web.Statements

/-!
# The OAuth flow

`services/oauth.rs`: the store of pending authorizations and exchange codes, and the steps of a flow.

* `StateStore.insert`, `take`, `storeExchange`, `takeExchange`: entries that are read once;
* `buildAuthorizationUrl`, `exchangeCode`, `fetchUserProfile`;
* `Fetched`: the profile that a provider has answered with.
-/

namespace Socle

open Interaction Prog Valkey

variable (env : WebEnv)

namespace StateStore

/-- `KEY_PREFIX`. -/
def keyPrefix : String := "oauth_state:"

def exchangePrefix : String := "oauth_exchange:"

/-- Ten minutes. -/
def stateTtlSecs : ℕ := 600

def exchangeTtlSecs : ℕ := 120

def stateKey (state : String) : String := keyPrefix ++ state

def exchangeKey (code : String) : String := exchangePrefix ++ code

/-- What an authorization leaves for its callback. -/
def pending (provider : OAuthProvider) (verifier : String) : StoredPendingAuth where
  verifierSecret := verifier
  provider := provider.slug

/-- Store a pending authorization. -/
def insert (state : String) (provider : OAuthProvider) (verifier : String) : Web Unit :=
  Web.command (.setEx (stateKey state) (env.pendingToJson (pending provider verifier)) stateTtlSecs)

/-- The verifier in an entry of the store, if it is one for the expected provider. -/
def verifierOf (raw : String) (expected : OAuthProvider) : Except FlowError String :=
  match env.pendingFromJson raw with
  | none => .error .invalidState
  | some stored =>
    match OAuthProvider.fromSlug stored.provider with
    | none => .error .invalidState
    | some actual =>
      if actual ≠ expected then .error (.providerMismatch expected actual)
      else .ok stored.verifierSecret

/-- Retrieve and delete a pending authorization. -/
def take (state : String) (expected : OAuthProvider) : Web String := do
  match ← Web.command (.getDel (stateKey state)) with
  | none => throw (.oauth .invalidState)
  | some raw =>
    match verifierOf env raw expected with
    | .ok verifier => pure verifier
    | .error e => throw (.oauth e)

/-- Store what an exchange code stands for. -/
def storeExchange (code payload : String) : Web Unit :=
  Web.command (.setEx (exchangeKey code) payload exchangeTtlSecs)

/-- Retrieve and delete what an exchange code stands for. -/
def takeExchange (code : String) : Web String := do
  match ← Web.command (.getDel (exchangeKey code)) with
  | none => throw (.oauth .exchangeCodeInvalid)
  | some raw => pure raw

end StateStore

/-- The authorization endpoint and the token endpoint of a provider. -/
def providerEndpoints : OAuthProvider → String × String
  | .google => ("https://accounts.google.com/o/oauth2/v2/auth", "https://oauth2.googleapis.com/token")
  | .gitHub => ("https://github.com/login/oauth/authorize", "https://github.com/login/oauth/access_token")

/-- Check that a URL can be parsed. -/
def parseUrl (url : String) : Web Unit :=
  match env.parseUrl url with
  | none => pure ()
  | some message => throw (.oauth (.invalidRedirectUri message))

/-- Draw randomness. -/
def random : Web ℕ := Web.perform (.app .random)

/-- Build the URL of the consent screen and store the pending authorization. -/
def buildAuthorizationUrl (provider : OAuthProvider) (cfg : OAuthProviderConfig) : Web String := do
  let verifier := env.pkceVerifier (← random)
  parseUrl env (providerEndpoints provider).1
  parseUrl env (providerEndpoints provider).2
  parseUrl env cfg.redirectUri
  let state := env.csrfToken (← random)
  StateStore.insert env state provider verifier
  pure (env.consentUrl provider cfg state (env.pkceChallenge verifier))

/-- Exchange an authorization code for an access token of the provider; the pending authorization is
consumed first. -/
def exchangeCode (provider : OAuthProvider) (cfg : OAuthProviderConfig) (code state : String) :
    Web String := do
  let verifier ← StateStore.take env state provider
  parseUrl env (providerEndpoints provider).2
  parseUrl env cfg.redirectUri
  match ← Web.perform (.exchangeToken provider cfg code verifier) with
  | .ok accessToken => pure accessToken
  | .error message => throw (.oauth (.tokenExchange message))

/-- The answer of a provider's API. -/
def answered {α : Type} : Except String α → Web α
  | .ok a => pure a
  | .error message => throw (.oauth (.providerUnreachable message))

def fetchGoogleProfile (accessToken : String) : Web OAuthProfile := do
  let info ← answered (← Web.perform (.googleUserInfo accessToken))
  pure ⟨.google, info.sub, info.email, info.name, info.picture⟩

/-- The primary address, if it is verified. -/
def fetchGitHubPrimaryEmail (accessToken : String) : Web String := do
  let emails ← answered (← Web.perform (.gitHubEmails accessToken))
  match emails.find? fun e => e.primary && e.verified with
  | some e => pure e.email
  | none => throw (.oauth (.incompleteProfile "email"))

def fetchGitHubProfile (accessToken : String) : Web OAuthProfile := do
  let info ← answered (← Web.perform (.gitHubUser accessToken))
  let email ← match info.email with
    | some email => pure email
    | none => fetchGitHubPrimaryEmail accessToken
  pure ⟨.gitHub, toString info.id.toNat, email, info.name.or (some info.login), info.avatarUrl⟩

def fetchUserProfile (provider : OAuthProvider) (accessToken : String) : Web OAuthProfile :=
  match provider with
  | .google => fetchGoogleProfile accessToken
  | .gitHub => fetchGitHubProfile accessToken

/-- The profile that is made of the answers in a log. -/
inductive Fetched (log : Log WebOp WebRet) : OAuthProfile → Prop
  | google {token : String} {info : GoogleUserInfo} (h : ⟨.googleUserInfo token, .ok info⟩ ∈ log) :
    Fetched log ⟨.google, info.sub, info.email, info.name, info.picture⟩
  /-- The public address of a GitHub profile. -/
  | gitHubPublic {token email : String} {info : GitHubUserInfo} (h : ⟨.gitHubUser token, .ok info⟩ ∈ log)
    (hemail : info.email = some email) :
    Fetched log ⟨.gitHub, toString info.id.toNat, email, info.name.or (some info.login), info.avatarUrl⟩
  /-- The primary address of a GitHub account. -/
  | gitHubListed {token : String} {info : GitHubUserInfo} {emails : List GitHubEmail} {e : GitHubEmail}
    (h : ⟨.gitHubUser token, .ok info⟩ ∈ log) (hemails : ⟨.gitHubEmails token, .ok emails⟩ ∈ log)
    (hfind : (emails.find? fun e => e.primary && e.verified) = some e) :
    Fetched log ⟨.gitHub, toString info.id.toNat, e.email, info.name.or (some info.login), info.avatarUrl⟩

theorem Fetched.of_suffix {l l' : Log WebOp WebRet} {profile : OAuthProfile} (h : Fetched l profile)
    (hl : l <:+ l') : Fetched l' profile := by
  cases h with
  | google h => exact .google (hl.subset h)
  | gitHubPublic h hemail => exact .gitHubPublic (hl.subset h) hemail
  | gitHubListed h hemails hfind => exact .gitHubListed (hl.subset h) (hl.subset hemails) hfind

/-! ### Specifications -/

section SatE

variable {env} {P : Log WebOp WebRet → WebOp → Prop} {E : Log WebOp WebRet → WebError → Prop}
  {log : Log WebOp WebRet}

@[simp] theorem satE_parseUrl {url : String} {Q : Log WebOp WebRet → Unit → Prop} :
    SatE (parseUrl env url) P Q E log ↔ (env.parseUrl url = none → Q log ()) ∧
      ∀ message, env.parseUrl url = some message → E log (.oauth (.invalidRedirectUri message)) := by
  unfold parseUrl
  cases env.parseUrl url <;> simp

@[simp] theorem satE_random {Q : Log WebOp WebRet → ℕ → Prop} :
    SatE random P Q E log ↔ P log (.app .random) ∧ ∀ n : ℕ, Q (⟨.app .random, n⟩ :: log) n := Iff.rfl

@[simp] theorem satE_insert {state verifier : String} {provider : OAuthProvider}
    {Q : Log WebOp WebRet → Unit → Prop} :
    SatE (StateStore.insert env state provider verifier) P Q E log ↔
      let q := Command.setEx (StateStore.stateKey state)
        (env.pendingToJson (StateStore.pending provider verifier)) StateStore.stateTtlSecs
      P log (.valkey q) ∧ (∀ x, Q (⟨.valkey q, .ok x⟩ :: log) x) ∧
        ∀ e, E (⟨.valkey q, .error e⟩ :: log) (.oauth e.flowError) := satE_command

@[simp] theorem satE_take {state : String} {provider : OAuthProvider}
    {Q : Log WebOp WebRet → String → Prop} :
    SatE (StateStore.take env state provider) P Q E log ↔
      let q := Command.getDel (StateStore.stateKey state)
      P log (.valkey q) ∧ E (⟨.valkey q, .ok none⟩ :: log) (.oauth .invalidState) ∧
        (∀ raw,
          (∀ verifier, StateStore.verifierOf env raw provider = .ok verifier →
            Q (⟨.valkey q, .ok (some raw)⟩ :: log) verifier) ∧
          ∀ e, StateStore.verifierOf env raw provider = .error e →
            E (⟨.valkey q, .ok (some raw)⟩ :: log) (.oauth e)) ∧
        ∀ e, E (⟨.valkey q, .error e⟩ :: log) (.oauth e.flowError) := by
  simp only [StateStore.take, satE_bind, satE_command, Option.forall, satE_throw, and_assoc]
  refine and_congr_right fun _ => and_congr_right fun _ => and_congr_left fun _ =>
    forall_congr' fun raw => ?_
  cases StateStore.verifierOf env raw provider <;> simp

@[simp] theorem satE_storeExchange {code payload : String} {Q : Log WebOp WebRet → Unit → Prop} :
    SatE (StateStore.storeExchange code payload) P Q E log ↔
      let q := Command.setEx (StateStore.exchangeKey code) payload StateStore.exchangeTtlSecs
      P log (.valkey q) ∧ (∀ x, Q (⟨.valkey q, .ok x⟩ :: log) x) ∧
        ∀ e, E (⟨.valkey q, .error e⟩ :: log) (.oauth e.flowError) := satE_command

@[simp] theorem satE_takeExchange {code : String} {Q : Log WebOp WebRet → String → Prop} :
    SatE (StateStore.takeExchange code) P Q E log ↔
      let q := Command.getDel (StateStore.exchangeKey code)
      P log (.valkey q) ∧ E (⟨.valkey q, .ok none⟩ :: log) (.oauth .exchangeCodeInvalid) ∧
        (∀ raw, Q (⟨.valkey q, .ok (some raw)⟩ :: log) raw) ∧
        ∀ e, E (⟨.valkey q, .error e⟩ :: log) (.oauth e.flowError) := by
  simp only [StateStore.takeExchange, satE_bind, satE_command, Option.forall, satE_throw, satE_pure,
    and_assoc]

/-- An authorization stores one entry, after two draws. -/
@[simp] theorem satE_buildAuthorizationUrl {provider : OAuthProvider} {cfg : OAuthProviderConfig}
    {Q : Log WebOp WebRet → String → Prop} :
    SatE (buildAuthorizationUrl env provider cfg) P Q E log ↔
      P log (.app .random) ∧ ∀ m : ℕ,
        let l : Log WebOp WebRet := ⟨.app .random, m⟩ :: log
        SatE (parseUrl env (providerEndpoints provider).1) P (fun _ _ =>
          SatE (parseUrl env (providerEndpoints provider).2) P (fun _ _ =>
            SatE (parseUrl env cfg.redirectUri) P (fun _ _ =>
              P l (.app .random) ∧ ∀ n : ℕ,
                SatE (StateStore.insert env (env.csrfToken n) provider (env.pkceVerifier m)) P
                  (fun l' _ => Q l' (env.consentUrl provider cfg (env.csrfToken n)
                    (env.pkceChallenge (env.pkceVerifier m)))) E (⟨.app .random, n⟩ :: l)) E l) E l) E l := by
  simp only [buildAuthorizationUrl, satE_bind, satE_random, satE_parseUrl, satE_pure]

@[simp] theorem satE_exchangeCode {provider : OAuthProvider} {cfg : OAuthProviderConfig}
    {code state : String} {Q : Log WebOp WebRet → String → Prop} :
    SatE (exchangeCode env provider cfg code state) P Q E log ↔
      SatE (StateStore.take env state provider) P (fun l verifier =>
        SatE (parseUrl env (providerEndpoints provider).2) P (fun _ _ =>
          SatE (parseUrl env cfg.redirectUri) P (fun _ _ =>
            let o := WebOp.exchangeToken provider cfg code verifier
            P l o ∧ (∀ accessToken, Q (⟨o, .ok accessToken⟩ :: l) accessToken) ∧
              ∀ message, E (⟨o, .error message⟩ :: l) (.oauth (.tokenExchange message))) E l) E l) E log := by
  simp only [exchangeCode, satE_bind]
  refine iff_of_eq (congrArg (fun T => SatE (StateStore.take env state provider) P T E log) ?_)
  funext l verifier
  simp only [satE_parseUrl, satE_webPerform]
  refine propext (and_congr_left fun _ => forall_congr' fun _ => and_congr_left fun _ =>
    forall_congr' fun _ => and_congr_right fun _ =>
      ⟨fun h => ⟨fun a => h (.ok a), fun m => h (.error m)⟩, ?_⟩)
  rintro ⟨hok, herr⟩ (m | a)
  · exact herr m
  · exact hok a

@[simp] theorem satE_answered {α : Type} {x : Except String α} {Q : Log WebOp WebRet → α → Prop} :
    SatE (answered x) P Q E log ↔
      (∀ a, x = .ok a → Q log a) ∧ ∀ m, x = .error m → E log (.oauth (.providerUnreachable m)) := by
  unfold answered
  cases x <;> simp

/-- A profile is fetched by calls to its provider only, and made of their answers. -/
theorem satE_fetchUserProfile {provider : OAuthProvider} {accessToken : String}
    {Q : Log WebOp WebRet → OAuthProfile → Prop}
    (hP : ∀ l o, log <:+ l → o.fetchesProfile = true → P l o)
    (hQ : ∀ l profile, log <:+ l → appLog l = appLog log → profile.provider = provider →
      Fetched l profile → Q l profile)
    (hE : ∀ l e, log <:+ l → E l e) : SatE (fetchUserProfile provider accessToken) P Q E log := by
  have hsuffix : ∀ {x y : (o : WebOp) × WebRet o}, log <:+ x :: y :: log := by
    intro x y
    exact (List.suffix_cons _ _).trans (List.suffix_cons _ _)
  cases provider with
  | google =>
    simp only [fetchUserProfile, fetchGoogleProfile, satE_bind, satE_webPerform, satE_answered, satE_pure]
    refine ⟨hP _ _ List.suffix_rfl rfl, fun r => ⟨?_, fun m _ => ?_⟩⟩
    · rintro info rfl
      exact hQ _ _ (List.suffix_cons _ _) (appLog_provider rfl) rfl (.google List.mem_cons_self)
    · exact hE _ _ (List.suffix_cons _ _)
  | gitHub =>
    simp only [fetchUserProfile, fetchGitHubProfile, satE_bind, satE_webPerform, satE_answered]
    refine ⟨hP _ _ List.suffix_rfl rfl, fun r => ⟨?_, fun m _ => ?_⟩⟩
    · rintro info rfl
      cases hemail : info.email with
      | some email =>
        exact hQ _ _ (List.suffix_cons _ _) (appLog_provider rfl) rfl (.gitHubPublic List.mem_cons_self hemail)
      | none =>
        simp only [fetchGitHubPrimaryEmail, satE_bind, satE_webPerform, satE_answered]
        refine ⟨hP _ _ (List.suffix_cons _ _) rfl, fun r' => ⟨?_, fun m _ => ?_⟩⟩
        · rintro emails rfl
          cases hfind : emails.find? fun e => e.primary && e.verified with
          | some e =>
            simp only [satE_pure]
            exact hQ _ _ hsuffix ((appLog_provider rfl).trans (appLog_provider rfl)) rfl
              (.gitHubListed (List.mem_cons_of_mem _ List.mem_cons_self) List.mem_cons_self hfind)
          | none =>
            simp only [satE_throw]
            exact hE _ _ hsuffix
        · exact hE _ _ hsuffix
    · exact hE _ _ (List.suffix_cons _ _)

end SatE

end Socle
