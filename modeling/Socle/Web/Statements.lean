import Socle.Interaction.Embed
import Socle.Model.Execution
import Socle.Services.App
import Socle.Valkey.Keyspace

/-!
# Statements of the web layer

What the handlers and the middleware of `routes/auth.rs` do besides the statements of the services: they
read the system time, send commands to Valkey, and call the APIs of the identity providers.

* `OAuthConfig`, `WebEnv`: the configuration and the libraries, and `WebEnv.Exact`, their laws;
* `FlowError`, `WebError`: the errors of `errors.rs` that the services do not raise;
* `WebOp`, `WebState`, `WebStmt`: statements and what they do; an identity provider may answer anything,
  and a command that fails may have been executed all the same;
* `WebState.Le`: no statement leaves the order of states;
* `Web`, `lift`: programs, and the programs of the services among them.
-/

namespace Socle

open Interaction Prog Valkey

/-! ### Configuration and libraries -/

/-- `config::OAuthProviderConfig`. -/
structure OAuthProviderConfig where
  clientId : String
  clientSecret : String
  redirectUri : String
  deriving DecidableEq

structure OAuthConfig where
  google : Option OAuthProviderConfig
  github : Option OAuthProviderConfig

def OAuthConfig.provider (cfg : OAuthConfig) : OAuthProvider → Option OAuthProviderConfig
  | .google => cfg.google
  | .gitHub => cfg.github

/-- What is stored between an authorization and its callback. -/
structure StoredPendingAuth where
  verifierSecret : String
  provider : String
  deriving DecidableEq

/-- The configuration of the web layer and the libraries it uses; randomness comes in as a number of
its own for each draw. -/
structure WebEnv where
  app : Env
  oauth : OAuthConfig
  authRateLimitMax : UInt64
  authRateLimitWindowSecs : UInt64
  /-- `CsrfToken::new_random`. -/
  csrfToken : ℕ → String
  /-- `PkceCodeChallenge::new_random_sha256`: the verifier, and the challenge it belongs to. -/
  pkceVerifier : ℕ → String
  pkceChallenge : String → String
  /-- `url::Url::parse`: nothing, or the text of the error. -/
  parseUrl : String → Option String
  /-- The URL of the consent screen for a CSRF state and a challenge. -/
  consentUrl : OAuthProvider → OAuthProviderConfig → (state challenge : String) → String
  /-- `serde_json`, for what is stored in Valkey. -/
  pendingToJson : StoredPendingAuth → String
  pendingFromJson : String → Option StoredPendingAuth
  authToJson : AuthResponse → String
  authFromJson : String → Option AuthResponse

/-- Random states and codes do not repeat, and what is stored is read back. -/
structure WebEnv.Exact (env : WebEnv) : Prop where
  csrf_injective : Function.Injective env.csrfToken
  token_injective : Function.Injective env.app.prim.opaqueToken
  pending_json : ∀ p, env.pendingFromJson (env.pendingToJson p) = some p
  auth_json : ∀ a, env.authFromJson (env.authToJson a) = some a

/-! ### Errors -/

/-- A failed exchange with Valkey: no connection, or an error in place of a reply. -/
inductive ValkeyError
  | pool (message : String)
  | redis (message : String)
  deriving DecidableEq

/-- The errors of `errors::OAuthError` that occur during a flow. -/
inductive FlowError
  | providerNotConfigured (provider : OAuthProvider)
  | invalidState
  | providerMismatch (expected actual : OAuthProvider)
  | tokenExchange (message : String)
  | providerUnreachable (message : String)
  | incompleteProfile (field : String)
  | invalidRedirectUri (message : String)
  | stateStore (message : String)
  | stateStoreRedis (message : String)
  | providerDenied (error detail : String)
  | exchangeCodeInvalid
  deriving DecidableEq

/-- `errors::AppError`, with the errors of the web layer. -/
inductive WebError
  | app (e : AppError)
  | oauth (e : FlowError)
  | rateLimited (retryAfter : ℕ)
  deriving DecidableEq

/-- How the state store reports a failed exchange with Valkey. -/
def ValkeyError.flowError : ValkeyError → FlowError
  | pool message => .stateStore message
  | redis message => .stateStoreRedis message

/-! ### Statements -/

structure GoogleUserInfo where
  sub : String
  email : String
  name : Option String
  picture : Option String

structure GitHubUserInfo where
  id : UInt64
  email : Option String
  name : Option String
  avatarUrl : Option String
  login : String

structure GitHubEmail where
  email : String
  primary : Bool
  verified : Bool

/-- What a program of the web layer can ask for. -/
inductive WebOp
  | app (o : Op)
  /-- `SystemTime::now`, in seconds since the epoch. -/
  | systemTime
  | valkey (q : Command)
  /-- Exchange an authorization code at the provider's token endpoint. -/
  | exchangeToken (provider : OAuthProvider) (cfg : OAuthProviderConfig) (code verifier : String)
  | googleUserInfo (accessToken : String)
  | gitHubUser (accessToken : String)
  | gitHubEmails (accessToken : String)

/-- The answers; a failed call to a provider is answered by the text of the error. -/
@[reducible] def WebRet : WebOp → Type
  | .app o => Ret o
  | .systemTime => ℕ
  | .valkey q => Except ValkeyError q.Reply
  | .exchangeToken _ _ _ _ => Except String String
  | .googleUserInfo _ => Except String GoogleUserInfo
  | .gitHubUser _ => Except String GitHubUserInfo
  | .gitHubEmails _ => Except String (List GitHubEmail)

/-- The state that all requests share. -/
structure WebState where
  app : State
  keys : Keyspace

namespace WebState

/-- The service is installed, nobody has called it, and Valkey is empty. -/
def fresh (clock : ℕ) : WebState := ⟨.fresh clock, .empty⟩

/-- What a client of Valkey finds at a key. -/
def lookup (s : WebState) (key : String) : Option Slot := s.keys.lookup s.app.clock key

end WebState

/-- The statement calls an identity provider. -/
def WebOp.callsProvider : WebOp → Bool
  | .exchangeToken _ _ _ _ | .googleUserInfo _ | .gitHubUser _ | .gitHubEmails _ => true
  | .app _ | .systemTime | .valkey _ => false

/-- The statement asks a provider about a user. -/
def WebOp.fetchesProfile : WebOp → Bool
  | .googleUserInfo _ | .gitHubUser _ | .gitHubEmails _ => true
  | _ => false

/-- One statement of a program. -/
inductive WebStmt (env : WebEnv) : (o : WebOp) → WebState → WebRet o → WebState → Prop
  | app {o : Op} {s : WebState} {r : Ret o} {t : State} (h : Stmt env.app o s.app r t) :
    WebStmt env (.app o) s r { s with app := t }
  | systemTime {s : WebState} : WebStmt env .systemTime s (s.app.clock / 1000000) s
  | valkey {q : Command} {s : WebState} {x : q.Reply} {keys : Keyspace}
      (h : q.apply s.app.clock s.keys = .ok (x, keys)) :
    WebStmt env (.valkey q) s (.ok x) { s with keys := keys }
  /-- The command is refused, or has not reached Valkey. -/
  | failed {q : Command} {s : WebState} (e : ValkeyError) : WebStmt env (.valkey q) s (.error e) s
  /-- The command has been executed, but its reply is lost. -/
  | lost {q : Command} {s : WebState} {x : q.Reply} {keys : Keyspace}
      (h : q.apply s.app.clock s.keys = .ok (x, keys)) (e : ValkeyError) :
    WebStmt env (.valkey q) s (.error e) { s with keys := keys }
  /-- A provider answers what it likes. -/
  | provider {o : WebOp} {s : WebState} {r : WebRet o} (h : o.callsProvider = true) :
    WebStmt env o s r s

/-- Time passes. -/
def WebTick (s s' : WebState) : Prop := ∃ t, s.app.clock ≤ t ∧ s' = { s with app := { s.app with clock := t } }

namespace WebStmt

variable {env : WebEnv} {s s' : WebState}

theorem app_eq {o : Op} {r : Ret o} (h : WebStmt env (.app o) s r s') :
    Stmt env.app o s.app r s'.app ∧ s'.keys = s.keys := by
  cases h with
  | app h => exact ⟨h, rfl⟩
  | provider h => cases h

theorem systemTime_eq {now : ℕ} (h : WebStmt env .systemTime s now s') :
    now = s.app.clock / 1000000 ∧ s' = s := by
  cases h with
  | systemTime => exact ⟨rfl, rfl⟩
  | provider h => cases h

theorem valkey_app {q : Command} {r : Except ValkeyError q.Reply} (h : WebStmt env (.valkey q) s r s') :
    s'.app = s.app := by
  cases h with
  | provider h => cases h
  | _ => rfl

/-- A command that is answered has been executed. -/
theorem valkey_ok {q : Command} {x : q.Reply} (h : WebStmt env (.valkey q) s (.ok x) s') :
    q.apply s.app.clock s.keys = .ok (x, s'.keys) := by
  cases h with
  | valkey h => exact h
  | provider h => cases h

/-- A command has been executed, or it has changed nothing. -/
theorem valkey_keys {q : Command} {r : Except ValkeyError q.Reply}
    (h : WebStmt env (.valkey q) s r s') :
    s'.keys = s.keys ∨ ∃ x, q.apply s.app.clock s.keys = .ok (x, s'.keys) := by
  cases h with
  | valkey h => exact Or.inr ⟨_, h⟩
  | failed e => exact Or.inl rfl
  | lost h e => exact Or.inr ⟨_, h⟩
  | provider h => cases h

/-- Only commands change keys. -/
theorem keys_cases {o : WebOp} {r : WebRet o} (h : WebStmt env o s r s') :
    s'.keys = s.keys ∨ ∃ q x, o = .valkey q ∧ q.apply s.app.clock s.keys = .ok (x, s'.keys) := by
  cases h with
  | valkey h => exact Or.inr ⟨_, _, rfl, h⟩
  | lost h e => exact Or.inr ⟨_, _, rfl, h⟩
  | _ => exact Or.inl rfl

/-- Only statements of the services change the rest. -/
theorem app_cases {o : WebOp} {r : WebRet o} (h : WebStmt env o s r s') :
    s'.app = s.app ∨ ∃ o' r', o = .app o' ∧ HEq r r' ∧ Stmt env.app o' s.app r' s'.app := by
  cases h with
  | app h => exact Or.inr ⟨_, _, rfl, HEq.rfl, h⟩
  | _ => exact Or.inl rfl

end WebStmt

/-- `s'` can come after `s`, as far as the services are concerned. -/
def WebState.Le (s s' : WebState) : Prop := s.app.Le s'.app

theorem WebState.Le.refl (s : WebState) : s.Le s := State.Le.refl _

theorem WebState.Le.trans {s t u : WebState} (h : s.Le t) (h' : t.Le u) : s.Le u := State.Le.trans h h'

theorem WebTick.le {s s' : WebState} (h : WebTick s s') : s.Le s' := by
  obtain ⟨t, ht, rfl⟩ := h
  exact { State.Le.refl s.app with clock := ht }

/-- **No statement leaves the order.** -/
theorem WebStmt.le {env : WebEnv} {s s' : WebState} {o : WebOp} {r : WebRet o}
    (h : WebStmt env o s r s') : s.Le s' := by
  rcases h.app_cases with heq | ⟨o', r', -, -, h⟩
  · rw [WebState.Le, heq]
    exact .refl _
  · exact h.le

/-! ### Programs -/

/-- A program of the web layer. -/
abbrev Web (α : Type) : Type := ExceptT WebError (Prog WebOp WebRet) α

/-- The statements of the services among those of the web layer. -/
def services : Inclusion Op Ret WebOp WebRet where
  op := .app
  back _ r := r
  own o r := match o, r with
    | .app o, r => some ⟨o, r⟩
    | _, _ => none
  own_op _ _ := rfl

/-- The statements of the services in a log. -/
def appLog (log : Log WebOp WebRet) : Log Op Ret := services.part log

/-- A program of the services. -/
def lift {α : Type} (p : App α) : Web α := services.embedE .app p

/-- Send a command to Valkey. -/
def send (q : Command) : Prog WebOp WebRet (Except ValkeyError q.Reply) := .step (.valkey q) .done

/-- Read the system time. -/
def systemTime : Prog WebOp WebRet ℕ := .step .systemTime .done

/-- Panic. -/
def panic {α : Type} : Prog WebOp WebRet α := .step (.app .abort) fun e => Empty.elim e

/-- Ask for one statement. -/
def Web.perform (o : WebOp) : Web (WebRet o) := ExceptT.lift (Prog.perform o)

/-- Send a command to Valkey, as the state store does. -/
def Web.command (q : Command) : Web q.Reply := do
  match ← ExceptT.lift (send q) with
  | .ok x => pure x
  | .error e => throw (.oauth e.flowError)

section SatE

variable {P : Log WebOp WebRet → WebOp → Prop} {E : Log WebOp WebRet → WebError → Prop}
  {log : Log WebOp WebRet} {α : Type}

@[simp] theorem appLog_nil : appLog [] = [] := rfl

@[simp] theorem appLog_app {o : Op} {r : Ret o} {l : Log WebOp WebRet} :
    appLog (⟨.app o, r⟩ :: l) = ⟨o, r⟩ :: appLog l := rfl

@[simp] theorem appLog_valkey {q : Command} {r : Except ValkeyError q.Reply} {l : Log WebOp WebRet} :
    appLog (⟨.valkey q, r⟩ :: l) = appLog l := rfl

@[simp] theorem appLog_systemTime {r : ℕ} {l : Log WebOp WebRet} :
    appLog (⟨.systemTime, r⟩ :: l) = appLog l := rfl

theorem appLog_provider {o : WebOp} {r : WebRet o} {l : Log WebOp WebRet}
    (h : o.callsProvider = true) : appLog (⟨o, r⟩ :: l) = appLog l := by
  cases o with
  | app | systemTime | valkey => cases h
  | _ => rfl

theorem mem_appLog {o : Op} {r : Ret o} :
    (⟨o, r⟩ : (o : Op) × Ret o) ∈ appLog log ↔ (⟨.app o, r⟩ : (o : WebOp) × WebRet o) ∈ log := by
  rw [appLog, Inclusion.part, List.mem_filterMap]
  constructor
  · rintro ⟨⟨o', r'⟩, hm, heq⟩
    cases o' with
    | app o' =>
      cases heq
      exact hm
    | _ => cases heq
  · exact fun hm => ⟨_, hm, rfl⟩

/-- The type of the reply is not indexed: it may have been computed in the goal. -/
@[simp] theorem sat_send {q : Command} {Q : Log WebOp WebRet → Except ValkeyError q.Reply → Prop} :
    @Sat _ _ (no_index (Except ValkeyError q.Reply)) P Q log (send q) ↔
      P log (.valkey q) ∧ (∀ x, Q (⟨.valkey q, .ok x⟩ :: log) (.ok x)) ∧
        ∀ e, Q (⟨.valkey q, .error e⟩ :: log) (.error e) := by
  refine and_congr_right fun _ => ⟨fun h => ⟨fun x => h (.ok x), fun e => h (.error e)⟩, ?_⟩
  rintro ⟨hok, herr⟩ (e | x)
  · exact herr e
  · exact hok x

@[simp] theorem sat_systemTime {Q : Log WebOp WebRet → ℕ → Prop} :
    Sat P Q log systemTime ↔ P log .systemTime ∧ ∀ now : ℕ, Q (⟨.systemTime, now⟩ :: log) now := Iff.rfl

@[simp] theorem sat_panic {Q : Log WebOp WebRet → α → Prop} :
    Sat P Q log (panic : Prog WebOp WebRet α) ↔ P log (.app .abort) :=
  ⟨fun h => h.1, fun h => ⟨h, fun e => Empty.elim e⟩⟩

@[simp] theorem satE_webPerform {o : WebOp} {Q : Log WebOp WebRet → WebRet o → Prop} :
    @SatE _ _ (no_index (WebRet o)) _ (Web.perform o) P Q E log ↔
      P log o ∧ ∀ r, Q (⟨o, r⟩ :: log) r := satE_lift

@[simp] theorem satE_command {q : Command} {Q : Log WebOp WebRet → q.Reply → Prop} :
    @SatE _ _ (no_index q.Reply) _ (Web.command q) P Q E log ↔
      P log (.valkey q) ∧ (∀ x, Q (⟨.valkey q, .ok x⟩ :: log) x) ∧
        ∀ e, E (⟨.valkey q, .error e⟩ :: log) (.oauth e.flowError) := by
  unfold Web.command
  rw [satE_bind]
  refine and_congr_right fun _ => ⟨fun h => ⟨fun x => h (.ok x), fun e => h (.error e)⟩, ?_⟩
  rintro ⟨hok, herr⟩ (e | x)
  · exact herr e
  · exact hok x

/-- What a program of the services guarantees of its own log. -/
theorem satE_lifted {p : App α} {Q : Log WebOp WebRet → α → Prop} {P₀ : Log Op Ret → Op → Prop}
    {Q₀ : Log Op Ret → α → Prop} {E₀ : Log Op Ret → AppError → Prop} (h : SatE p P₀ Q₀ E₀ (appLog log))
    (hP : ∀ l o, log <:+ l → P₀ (appLog l) o → P l (.app o))
    (hQ : ∀ l a, log <:+ l → Q₀ (appLog l) a → Q l a)
    (hE : ∀ l e, log <:+ l → E₀ (appLog l) e → E l (.app e)) : SatE (lift p) P Q E log :=
  satE_embedE hP hQ hE h

end SatE

end Socle
