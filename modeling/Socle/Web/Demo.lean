import Socle.Demo
import Socle.Web.Statements

/-!
# A web installation for concrete runs

* `writeFrames`, `readFrames`: texts written one after the other, each behind its length;
* `demoWeb`: the service with ideal libraries, for which `demoWeb_exact` holds;
* `webExec`: execution without failures, with providers that answer as told.
-/

namespace Socle

open Interaction Valkey

/-! ### Frames -/

/-- A text behind its length, which is written in unary. -/
def frame (s : String) : List Char := List.replicate s.toList.length 'x' ++ ':' :: s.toList

def writeFrames (texts : List String) : String := String.ofList (texts.flatMap frame)

/-- Read one text after `n` marks have been read. -/
def readFrame (n : ℕ) : List Char → Option (String × List Char)
  | [] => none
  | c :: cs =>
    if c = 'x' then readFrame (n + 1) cs
    else if c = ':' then some (String.ofList (cs.take n), cs.drop n)
    else none

/-- Read so many texts. -/
def readFrames : ℕ → List Char → Option (List String)
  | 0, _ => some []
  | n + 1, cs => (readFrame 0 cs).bind fun x => (readFrames n x.2).map (x.1 :: ·)

theorem readFrame_replicate (m n : ℕ) (cs : List Char) :
    readFrame n (List.replicate m 'x' ++ ':' :: cs) =
      some (String.ofList (cs.take (n + m)), cs.drop (n + m)) := by
  induction m generalizing n with
  | zero => simp [readFrame]
  | succ m ih =>
    have hlength : n + (m + 1) = n + 1 + m := by omega
    rw [List.replicate_succ, List.cons_append, readFrame, if_pos rfl, ih, hlength]

theorem readFrame_frame (s : String) (cs : List Char) : readFrame 0 (frame s ++ cs) = some (s, cs) := by
  rw [frame, List.append_assoc, List.cons_append, readFrame_replicate]
  simp

theorem readFrames_writeFrames (texts : List String) :
    readFrames texts.length (writeFrames texts).toList = some texts := by
  rw [writeFrames, String.toList_ofList]
  induction texts with
  | nil => rfl
  | cons s texts ih =>
    rw [List.flatMap_cons, List.length_cons, readFrames, readFrame_frame]
    simp [ih]

/-- A number, in decimal. -/
def readNat (s : String) : ℕ := Nat.ofDigitChars 10 s.toList 0

@[simp] theorem readNat_repr (n : ℕ) : readNat n.repr = n := by
  rw [readNat, Nat.toList_repr, Nat.ofDigitChars_ten_toDigits]

/-- An integer, as a sign and a number. -/
def writeInt (n : ℤ) : List String := [if n < 0 then "-" else "", n.natAbs.repr]

def readInt (sign abs : String) : ℤ := if sign = "-" then -readNat abs else readNat abs

@[simp] theorem readInt_writeInt (n : ℤ) :
    readInt (if n < 0 then "-" else "") n.natAbs.repr = n := by
  unfold readInt
  by_cases hneg : n < 0
  · rw [if_pos hneg, if_pos rfl, readNat_repr]
    omega
  · rw [if_neg hneg, if_neg (by decide), readNat_repr]
    omega

def writeBool (b : Bool) : String := if b then "true" else "false"

@[simp] theorem readBool_writeBool (b : Bool) : decide (writeBool b = "true") = b := by
  cases b <;> decide

def readRole (s : String) : Role :=
  if s = "guest" then .guest else if s = "user" then .user else .admin

@[simp] theorem readRole_label (r : Role) : readRole r.label = r := by
  cases r <;> decide

/-! ### The installation -/

def writePending (p : StoredPendingAuth) : String := writeFrames [p.verifierSecret, p.provider]

def pendingOfTexts : List String → Option StoredPendingAuth
  | [verifier, provider] => some ⟨verifier, provider⟩
  | _ => none

def readPending (s : String) : Option StoredPendingAuth := (readFrames 2 s.toList).bind pendingOfTexts

theorem readPending_writePending (p : StoredPendingAuth) : readPending (writePending p) = some p := by
  have hread : readFrames 2 (writePending p).toList = some [p.verifierSecret, p.provider] :=
    readFrames_writeFrames [p.verifierSecret, p.provider]
  rw [readPending, hread]
  rfl

def authTexts (a : AuthResponse) : List String :=
  [a.accessToken, a.refreshToken, a.expiresIn.repr, a.user.id.repr, a.user.email, a.user.displayName,
    writeBool a.user.username.isSome, a.user.username.getD "", a.user.role.label,
    writeBool a.user.hasLocalCredential] ++ writeInt a.user.createdAt ++ writeInt a.user.updatedAt

def authOfTexts : List String → Option AuthResponse
  | [access, refresh, expiresIn, id, email, name, named, username, role, localCredential, createdSign,
      created, updatedSign, updated] =>
    some ⟨access, refresh, readNat expiresIn, readNat id, email, name,
      if decide (named = "true") then some username else none, readRole role,
      decide (localCredential = "true"), readInt createdSign created, readInt updatedSign updated⟩
  | _ => none

theorem authOfTexts_authTexts (a : AuthResponse) : authOfTexts (authTexts a) = some a := by
  obtain ⟨access, refresh, expiresIn, id, email, name, username, role, localCredential, created, updated⟩ := a
  have hname : (if username.isSome = true then some (username.getD "") else none) = username := by
    cases username <;> rfl
  simp only [authTexts, writeInt, List.cons_append, List.nil_append, authOfTexts, readNat_repr,
    readRole_label, readBool_writeBool, readInt_writeInt, hname]

def writeAuth (a : AuthResponse) : String := writeFrames (authTexts a)

def readAuth (s : String) : Option AuthResponse := (readFrames 14 s.toList).bind authOfTexts

theorem readAuth_writeAuth (a : AuthResponse) : readAuth (writeAuth a) = some a := by
  have hread : readFrames 14 (writeAuth a).toList = some (authTexts a) :=
    readFrames_writeFrames (authTexts a)
  rw [readAuth, hread]
  exact authOfTexts_authTexts a

/-- The service with both providers, and at most one request a minute. -/
def demoWeb : WebEnv where
  app := demo
  oauth := ⟨some ⟨"google-id", "google-secret", "https://app.example/auth/google/callback"⟩,
    some ⟨"github-id", "github-secret", "https://app.example/auth/github/callback"⟩⟩
  authRateLimitMax := 1
  authRateLimitWindowSecs := 60
  csrfToken := tally
  pkceVerifier n := "verifier-" ++ tally n
  pkceChallenge verifier := "challenge-" ++ verifier
  parseUrl _ := none
  consentUrl provider cfg state challenge :=
    provider.slug ++ "?client_id=" ++ cfg.clientId ++ "&state=" ++ state ++ "&code_challenge=" ++ challenge
  pendingToJson := writePending
  pendingFromJson := readPending
  authToJson := writeAuth
  authFromJson := readAuth

theorem demoWeb_json : demoWeb.pendingToJson = writePending ∧ demoWeb.pendingFromJson = readPending ∧
    demoWeb.authToJson = writeAuth ∧ demoWeb.authFromJson = readAuth := ⟨rfl, rfl, rfl, rfl⟩

theorem demoWeb_exact : demoWeb.Exact := by
  obtain ⟨hto, hfrom, hauthTo, hauthFrom⟩ := demoWeb_json
  refine ⟨tally_injective, tally_injective, fun p => ?_, fun a => ?_⟩
  · rw [hto, hfrom, readPending_writePending]
  · rw [hauthTo, hauthFrom, readAuth_writeAuth]

/-- What the providers answer. -/
structure Answers where
  exchangeToken : OAuthProvider → (code verifier : String) → Except String String
  googleUserInfo : String → Except String GoogleUserInfo
  gitHubUser : String → Except String GitHubUserInfo
  gitHubEmails : String → Except String (List GitHubEmail)

/-- Providers that are out of reach. -/
def noAnswers : Answers where
  exchangeToken _ _ _ := .error "unreachable"
  googleUserInfo _ := .error "unreachable"
  gitHubUser _ := .error "unreachable"
  gitHubEmails _ := .error "unreachable"

/-- A provider that knows whoever an authorization code names. -/
def trustingAnswers : Answers where
  exchangeToken _ code _ := .ok code
  googleUserInfo token := .ok ⟨token, token, none, none⟩
  gitHubUser token := .ok ⟨.ofNat token.length, some token, none, none, token⟩
  gitHubEmails token := .ok [⟨token, true, true⟩]

/-- Execute a statement atomically and without failures. -/
def webExec (env : WebEnv) (answers : Answers) : (o : WebOp) → WebState → Option (WebRet o × WebState)
  | .app o, s => (exec env.app o s.app).map fun x => (x.1, { s with app := x.2 })
  | .systemTime, s => some (s.app.clock / 1000000, s)
  | .valkey q, s =>
    match q.apply s.app.clock s.keys with
    | .ok (x, keys) => some (.ok x, { s with keys := keys })
    | .error _ => some (.error (.redis "refused"), s)
  | .exchangeToken provider _ code verifier, s => some (answers.exchangeToken provider code verifier, s)
  | .googleUserInfo token, s => some (answers.googleUserInfo token, s)
  | .gitHubUser token, s => some (answers.gitHubUser token, s)
  | .gitHubEmails token, s => some (answers.gitHubEmails token, s)

theorem webExec_sound {env : WebEnv} {answers : Answers} {o : WebOp} {s s' : WebState} {r : WebRet o}
    (h : webExec env answers o s = some (r, s')) : WebStmt env o s r s' := by
  cases o with
  | app o =>
    obtain ⟨⟨r', t⟩, hx, heq⟩ := Option.map_eq_some_iff.1 h
    cases heq
    exact .app (.exec hx)
  | systemTime =>
    cases h
    exact .systemTime
  | valkey q =>
    simp only [webExec] at h
    split at h
    · next hq =>
      cases h
      exact .valkey hq
    · cases h
      exact .failed _
  | exchangeToken | googleUserInfo | gitHubUser | gitHubEmails =>
    cases h
    exact .provider rfl

end Socle
