import Socle.Accounts.Merging

/-!
# Addresses that providers have verified

An OAuth login finds an account by the address in the profile, whoever has registered it.

* `GoogleResponse`, `Responses`: what the user-info endpoints respond, with what the program leaves unread;
* `Responses.Verified`: the addresses that a provider marks as verified;
* `fetched_verified`: a profile from GitHub has a verified address, and one from Google if Google says so;
* `callback_asks`: what a callback does with an address;
* `onlyVerified_iff`: when only verified addresses reach the accounts;
* `unverified_merged`: an account is merged by an address that Google has not verified.
-/

namespace Socle

open Interaction Prog Valkey

/-! ### Responses -/

/-- The body of a successful response of Google's user-info endpoint. -/
structure GoogleResponse where
  sub : String
  email : String
  /-- `email_verified`, if it is there and a boolean. -/
  emailVerified : Option Bool
  name : Option String
  picture : Option String

/-- What is read of a response: fields that `GoogleUserInfo` does not have are ignored. -/
def GoogleUserInfo.ofResponse (r : GoogleResponse) : GoogleUserInfo where
  sub := r.sub
  email := r.email
  name := r.name
  picture := r.picture

/-- What the user-info endpoints respond; a request that fails, or whose response cannot be read, is answered
by the text of the error. -/
structure Responses where
  google : Except String GoogleResponse
  gitHubUser : Except String GitHubUserInfo
  gitHubEmails : Except String (List GitHubEmail)

namespace Responses

variable (a : Responses)

/-- The statement is answered by the responses. -/
def Gives : (o : WebOp) → WebRet o → Prop
  | .googleUserInfo _, r => r = a.google.map GoogleUserInfo.ofResponse
  | .gitHubUser _, r => r = a.gitHubUser
  | .gitHubEmails _, r => r = a.gitHubEmails
  | _, _ => True

/-- The statements of a log are. -/
def Explains (log : Log WebOp WebRet) : Prop := ∀ x ∈ log, a.Gives x.1 x.2

/-- The meaning of statements when the endpoints respond so. -/
def Sem (env : WebEnv) : Sem WebOp WebRet WebState := fun o s r s' => WebStmt env o s r s' ∧ a.Gives o r

/-- The provider marks the address as verified; the public address of a GitHub profile is. -/
inductive Verified : OAuthProvider → String → Prop
  | google {r : GoogleResponse} (h : a.google = .ok r) (hverified : r.emailVerified = some true) :
    Verified .google r.email
  | gitHubPublic {info : GitHubUserInfo} {email : String} (h : a.gitHubUser = .ok info)
    (hemail : info.email = some email) : Verified .gitHub email
  | gitHubListed {emails : List GitHubEmail} {e : GitHubEmail} (h : a.gitHubEmails = .ok emails)
    (he : e ∈ emails) (hverified : e.verified = true) : Verified .gitHub e.email

/-- A profile that Google responds with, is marked as verified. -/
def Marked : Prop := ∀ r, a.google = .ok r → r.emailVerified = some true

end Responses

/-- Asking about a user is a call to a provider. -/
theorem WebOp.callsProvider_of_fetches {o : WebOp} (h : o.fetchesProfile = true) : o.callsProvider = true := by
  cases o with
  | app | systemTime | valkey => exact absurd h Bool.false_ne_true
  | _ => rfl

variable {env : WebEnv} {a : Responses} {provider : OAuthProvider} {log : Log WebOp WebRet}

theorem Responses.Explains.of_suffix {l : Log WebOp WebRet} (h : a.Explains log) (hl : l <:+ log) :
    a.Explains l :=
  fun x hx => h x (hl.subset hx)

/-- **A profile has a verified address**, from Google if Google says so. -/
theorem fetched_verified {profile : OAuthProfile} (hfetched : Fetched log profile) (ha : a.Explains log)
    (hmarked : profile.provider = .gitHub ∨ a.Marked) : a.Verified profile.provider profile.email := by
  cases hfetched with
  | @google token info h =>
    have hall : a.Marked := by
      rcases hmarked with hgithub | hall
      · cases hgithub
      · exact hall
    have hgives : .ok info = a.google.map GoogleUserInfo.ofResponse := ha _ h
    cases hgoogle : a.google with
    | error m =>
      rw [hgoogle] at hgives
      cases hgives
    | ok r =>
      rw [hgoogle] at hgives
      cases hgives
      exact .google hgoogle (hall r hgoogle)
  | gitHubPublic h hemail =>
    have hgives : .ok _ = a.gitHubUser := ha _ h
    exact .gitHubPublic hgives.symm hemail
  | @gitHubListed token info emails e h hemails hfind =>
    have hgives : .ok _ = a.gitHubEmails := ha _ hemails
    have hverified : e.verified = true := by
      have hfound := List.find?_some hfind
      rw [Bool.and_eq_true] at hfound
      exact hfound.2
    exact .gitHubListed hgives.symm (List.mem_of_find?_eq_some hfind) hverified

/-- Programs that only ask about a user can always be answered. -/
theorem Responses.exists_run {α : Type} {p : Prog WebOp WebRet α} {Q : Log WebOp WebRet → α → Prop}
    (hp : Sat (fun _ o => o.fetchesProfile = true) Q log p) (s : WebState) : ∃ x, Runs (a.Sem env) p s x s := by
  induction p generalizing log with
  | done x => exact ⟨x, rfl, rfl⟩
  | step o k ih =>
    have hgives : ∃ r, a.Gives o r := by
      cases o with
      | app | systemTime | valkey | exchangeToken => exact absurd hp.1 Bool.false_ne_true
      | _ => exact ⟨_, rfl⟩
    obtain ⟨r, hr⟩ := hgives
    have hcalls : o.callsProvider = true := WebOp.callsProvider_of_fetches hp.1
    obtain ⟨x, hrun⟩ := ih r (hp.2 r)
    exact ⟨x, r, s, ⟨.provider hcalls, hr⟩, hrun⟩

/-- A run that is answered by the responses has a log that they explain. -/
theorem Responses.runs_explained {α : Type} {p : Prog WebOp WebRet α} {s s' : WebState} {x : α}
    {P : Log WebOp WebRet → WebOp → Prop} {Q : Log WebOp WebRet → α → Prop} (h : Runs (a.Sem env) p s x s')
    (hp : Sat P Q [] p) : ∃ l, Q l x ∧ a.Explains l := by
  refine Runs.invariant (fun l _ => a.Explains l) h hp ?_ (fun x hx => by cases hx)
  intro l o s r s' _ hsem hl x hx
  rcases List.mem_cons.1 hx with rfl | hx
  · exact hsem.2
  · exact hl x hx

/-- So a profile that is fetched is made of the responses. -/
theorem runs_fetchUserProfile {accessToken : String} {s s' : WebState} {profile : OAuthProfile}
    (h : Runs (a.Sem env) (fetchUserProfile provider accessToken).run s (.ok profile) s') :
    profile.provider = provider ∧ ∃ l, Fetched l profile ∧ a.Explains l := by
  have hspec : SatE (fetchUserProfile provider accessToken) (fun _ _ => True)
      (fun l profile => profile.provider = provider ∧ Fetched l profile) (fun _ _ => True) [] :=
    satE_fetchUserProfile (fun _ _ _ _ => trivial) (fun _ _ _ _ hprovider hfetched => ⟨hprovider, hfetched⟩)
      fun _ _ _ => trivial
  obtain ⟨l, ⟨hprovider, hfetched⟩, hl⟩ := Responses.runs_explained h hspec
  exact ⟨hprovider, l, hfetched, hl⟩

/-! ### Callbacks -/

/-- The address by which a statement finds an account or with which it creates one. -/
def Op.address : Op → Option String
  | .sql (.selectUserByEmail email) => some email
  | .sql (.insertUser _ email _) => some email
  | .sql (.insertAccount _ email _ _ _) => some email
  | _ => none

/-- An OAuth login finds and creates accounts by the address in the profile only. -/
theorem loginOrRegisterOAuth_address {app : Env} {profile : OAuthProfile} {l : Log Op Ret} :
    SatE (AuthService.loginOrRegisterOAuth app profile)
      (fun _ o => ∀ email, o.address = some email → email = profile.email) (fun _ _ => True)
      (fun _ _ => True) l := by
  simp [AuthService.loginOrRegisterOAuth, Op.address]

/-- A callback asks for statements of the services after it has fetched a profile, whose address it uses. -/
def CallbackAsks (q : WebRequest) (l : Log WebOp WebRet) (o : WebOp) : Prop :=
  ∀ slug params o', q = .callback slug params → o = .app o' → ∃ profile, Fetched l profile ∧
    OAuthProvider.fromSlug slug = some profile.provider ∧
    ∀ email, o'.address = some email → email = profile.email

/-- **What a callback does with an address.** -/
theorem callback_asks (q : WebRequest) :
    SatE (webHandle env q) (CallbackAsks q) (fun _ _ => True) (fun _ _ => True) [] := by
  cases q with
  | callback slug params =>
    have hother : ∀ (l : Log WebOp WebRet) (o : WebOp), (∀ o', o ≠ .app o') →
        CallbackAsks (.callback slug params) l o := by
      intro l o hno slug' params' o' _ heq
      exact absurd heq (hno o')
    refine satE_callback (fun _ _ _ => trivial) (fun _ _ _ _ => hother _ _ (by simp)) ?_
    intro state provider raw verifier _ hslug _
    refine ⟨fun _ _ => hother _ _ (by simp), fun l o _ ho => hother _ _ ?_,
      fun l profile _ _ hprovider hfetched => ?_⟩
    · rintro o' rfl
      cases ho
    · subst hprovider
      refine satE_lifted loginOrRegisterOAuth_address ?_ ?_ (fun _ _ _ _ => trivial)
      · rintro l' o hl' ho slug' params' o' heq ⟨⟩
        cases heq
        exact ⟨profile, hfetched.of_suffix hl', hslug, ho⟩
      · refine fun l' auth hl' _ => ⟨?_, fun n => ⟨hother _ _ (by simp), trivial⟩⟩
        rintro slug' params' o' heq ⟨⟩
        cases heq
        refine ⟨profile, hfetched.of_suffix hl', hslug, fun email hemail => ?_⟩
        cases hemail
  | api | authorize | session =>
    refine SatE.trivial (fun l o slug params o' heq _ => ?_) (fun _ _ => trivial) (fun _ _ => trivial) _
    cases heq

/-- The request is a callback from the provider, and has been answered by the responses. -/
structure CallbackAnswered (provider : OAuthProvider) (a : Responses) (H : WebTrace) (i : ℕ) : Prop where
  callback : ∃ slug params, .start i (.callback slug params) ∈ H ∧ OAuthProvider.fromSlug slug = some provider
  explained : a.Explains (localLog i H)

/-- Only addresses that the provider marks as verified reach the accounts. -/
structure OnlyVerified (env : WebEnv) (provider : OAuthProvider) (a : Responses) : Prop where
  /-- A profile has a verified address. -/
  profile : ∀ {accessToken s profile s'},
    Runs (a.Sem env) (fetchUserProfile provider accessToken).run s (.ok profile) s' →
      a.Verified provider profile.email
  /-- Where there is no such address, an error is returned, -/
  unavailable : (∀ email, ¬ a.Verified provider email) → ∀ accessToken s,
    (∃ x s', Runs (a.Sem env) (fetchUserProfile provider accessToken).run s x s') ∧
      ∀ x s', Runs (a.Sem env) (fetchUserProfile provider accessToken).run s x s' → ∃ e, x = .error e
  /-- and no callback asks the services for anything. -/
  unreached : (∀ email, ¬ a.Verified provider email) → ∀ {s₀ c i}, (web env).Reachable s₀ c →
    CallbackAnswered provider a c.history i → ∀ {o r s s'}, .stmt i (.app o) r s s' ∉ c.history
  /-- Accounts are looked up and created by verified addresses only, -/
  reached : ∀ {s₀ c i}, (web env).Reachable s₀ c → CallbackAnswered provider a c.history i →
    ∀ {o r s s' email}, .stmt i (.app o) r s s' ∈ c.history → o.address = some email →
      a.Verified provider email
  /-- and so they are merged. -/
  merged : ∀ {s₀ c i}, (web env).Reachable s₀ c → CallbackAnswered provider a c.history i →
    ∀ {h u email s s'}, Merged c.history h i u email s s' → a.Verified provider email

/-- A callback that has asked the services for something has a profile. -/
theorem CallbackAnswered.fetched {s₀ : WebState}
    {c : Pool WebOp WebRet WebRequest (Except WebError WebResponse) WebState} {i : ℕ} {o : Op} {r : Ret o}
    {s s' : WebState} (hi : CallbackAnswered provider a c.history i)
    (hc : (web env).Reachable s₀ c) (hstmt : .stmt i (.app o) r s s' ∈ c.history) :
    ∃ l profile, a.Explains l ∧ Fetched l profile ∧ profile.provider = provider ∧
      ∀ email, o.address = some email → email = profile.email := by
  obtain ⟨slug, params, hq, hslug⟩ := hi.callback
  obtain ⟨h, hocc⟩ := exists_occurs hstmt
  obtain ⟨profile, hfetched, hprovider, haddress⟩ :=
    web_at_stmt hc callback_asks hq hocc slug params o rfl rfl
  rw [hslug, Option.some.injEq] at hprovider
  exact ⟨_, profile, hi.explained.of_suffix (localLog_suffix hocc.past), hfetched, hprovider.symm, haddress⟩

/-- **Only verified addresses reach the accounts**, unless Google responds with one that is not. -/
theorem onlyVerified_iff : OnlyVerified env provider a ↔ provider = .gitHub ∨ a.Marked := by
  constructor
  · intro h
    cases provider with
    | gitHub => exact Or.inl rfl
    | google =>
      refine Or.inr fun r hr => ?_
      have hrun : Runs (a.Sem env) (fetchUserProfile .google "").run (.fresh 0)
          (.ok ⟨.google, r.sub, r.email, r.name, r.picture⟩) (.fresh 0) := by
        refine ⟨.ok (.ofResponse r), .fresh 0, ⟨.provider rfl, ?_⟩, rfl, rfl⟩
        show _ = a.google.map GoogleUserInfo.ofResponse
        rw [hr]
        rfl
      generalize hemail : r.email = email at hrun
      cases h.profile hrun with
      | google hr' hverified =>
        rw [hr] at hr'
        cases hr'
        exact hverified
  · intro hmarked
    have hverified : ∀ {l profile}, a.Explains l → Fetched l profile → profile.provider = provider →
        a.Verified provider profile.email := by
      rintro l profile hl hfetched rfl
      exact fetched_verified hfetched hl hmarked
    have hprofile : ∀ {accessToken s profile s'},
        Runs (a.Sem env) (fetchUserProfile provider accessToken).run s (.ok profile) s' →
          a.Verified provider profile.email := by
      intro accessToken s profile s' hrun
      obtain ⟨hprovider, l, hfetched, hl⟩ := runs_fetchUserProfile hrun
      exact hverified hl hfetched hprovider
    have hreached : ∀ {s₀ c i}, (web env).Reachable s₀ c → CallbackAnswered provider a c.history i →
        ∀ {o r s s' email}, .stmt i (.app o) r s s' ∈ c.history → o.address = some email →
          a.Verified provider email := by
      intro s₀ c i hc hi o r s s' email hstmt haddress
      obtain ⟨l, profile, hl, hfetched, hprovider, hemail⟩ := hi.fetched hc hstmt
      rw [hemail email haddress]
      exact hverified hl hfetched hprovider
    refine ⟨hprofile, fun hnone accessToken s => ⟨?_, ?_⟩, ?_, hreached, ?_⟩
    · have hspec : SatE (fetchUserProfile provider accessToken) (fun _ o => o.fetchesProfile = true)
          (fun _ _ => True) (fun _ _ => True) [] :=
        satE_fetchUserProfile (fun _ _ _ ho => ho) (fun _ _ _ _ _ _ => trivial) fun _ _ _ => trivial
      obtain ⟨x, hx⟩ := Responses.exists_run hspec s
      exact ⟨x, s, hx⟩
    · rintro (e | profile) s' hrun
      · exact ⟨e, rfl⟩
      · exact absurd (hprofile hrun) (hnone _)
    · intro hnone s₀ c i hc hi o r s s' hstmt
      obtain ⟨l, profile, hl, hfetched, hprovider, -⟩ := hi.fetched hc hstmt
      exact hnone _ (hverified hl hfetched hprovider)
    · intro s₀ c i hc hi h u email s s' hmerged
      obtain ⟨user, t, t', hfound, -⟩ := hmerged.found
      obtain ⟨_, _, _, _, hlinked⟩ := hmerged.linked
      exact hreached hc hi (hlinked.past.subset hfound) rfl

/-! ### An address that is not verified -/

/-- Google says that the address is Mallory's, and that it has not been verified. -/
def unverified : Responses where
  google := .ok ⟨"mallory", "carol@example.com", some false, none, none⟩
  gitHubUser := .error "unreachable"
  gitHubEmails := .error "unreachable"

theorem not_verified (email : String) : ¬ unverified.Verified .google email := by
  intro h
  cases h with
  | google h hverified =>
    cases h
    cases hverified

/-- A provider that accepts every authorization code and responds so. -/
def Responses.answers (a : Responses) : Answers where
  exchangeToken _ code _ := .ok code
  googleUserInfo _ := a.google.map .ofResponse
  gitHubUser _ := a.gitHubUser
  gitHubEmails _ := a.gitHubEmails

theorem Responses.answers_give {o : WebOp} {r : WebRet o} {s s' : WebState}
    (h : webExec env a.answers o s = some (r, s')) : a.Gives o r := by
  cases o with
  | app | systemTime | valkey | exchangeToken => trivial
  | googleUserInfo | gitHubUser | gitHubEmails =>
    cases h
    rfl

/-- In runs that are answered by the responses, every request is. -/
theorem explains_of_restrict {s₀ : WebState}
    {c : Pool WebOp WebRet WebRequest (Except WebError WebResponse) WebState} {i : ℕ}
    (hc : ((web env).restrict fun _ _ o _ r => a.Gives o r).Reachable s₀ c) :
    a.Explains (localLog i c.history) := by
  rintro ⟨o, r⟩ hx
  obtain ⟨s, s', hstmt⟩ := exists_stmt_of_mem_localLog hx
  obtain ⟨h, hocc⟩ := exists_occurs hstmt
  exact (hc.sem_of_stmt hocc).2

/-- Carol registers; then Mallory logs in with Google. -/
def takeoverMoves : List (System.Move WebRequest) :=
  [.start (.api ⟨none, none⟩ (.register "carol@example.com" "carol" "password") rfl)] ++ System.goes 0 13 ++
    [.start (.authorize "google")] ++ System.goes 1 3 ++
    [.start (.callback "google" ⟨some "code", some (tally 6), none, none⟩)] ++ System.goes 2 17

/-- Mallory is given Carol's account. -/
theorem carol_merged : ∃ c h s s', (web demoWeb).Reachable (.fresh 0) c ∧
    CallbackAnswered .google unverified c.history 2 ∧ Merged c.history h 2 1 "carol@example.com" s s' ∧
    ∃ url, .done 2 (.ok (.redirect url)) ∈ c.history := by
  have hplay : (System.play (web demoWeb).handler (fun _ _ => webExec demoWeb unverified.answers) takeoverMoves
      (.init (.fresh 0))).map (fun c => (findPast (performs 2 (links 1)) c.history).bind fun h =>
        (findPast (performs 2 (findsByEmail 1 "carol@example.com")) h).map fun _ =>
          (System.asked 2 c.history, System.outcome 2 c.history)) =
      some (some (some (.callback "google" ⟨some "code", some (tally 6), none, none⟩),
        some (.ok (.redirect "/auth/success?code=xxxxxxxxxxx")))) := by
    decide +kernel
  obtain ⟨c, hplay, hobs⟩ := Option.map_eq_some_iff.1 hplay
  have hsem : ∀ {H i o s r s'}, webExec demoWeb unverified.answers o s = some (r, s') →
      ((web demoWeb).restrict fun _ _ o _ r => unverified.Gives o r).sem H i o s r s' :=
    fun h => ⟨webExec_sound h, Responses.answers_give h⟩
  have hc := System.Reachable.play @hsem .init hplay
  obtain ⟨h, hlink, hobs⟩ := Option.bind_eq_some_iff.1 hobs
  obtain ⟨h', hfind, hobs⟩ := Option.map_eq_some_iff.1 hobs
  obtain ⟨hq, hdone⟩ := Prod.mk.inj hobs
  obtain ⟨s, s', hmerged⟩ := merged_of_performs hlink hfind
  exact ⟨c, h, s, s', hc.of_restrict, ⟨⟨_, _, System.start_mem_of_asked hq, rfl⟩, explains_of_restrict hc⟩,
    hmerged, _, System.done_mem_of_outcome hdone⟩

/-- **A takeover**: Google says that the address has not been verified, and Mallory logs in to the account of
whoever has registered it. -/
theorem unverified_merged : ¬ OnlyVerified demoWeb .google unverified := by
  intro h
  obtain ⟨c, _, _, _, hc, hanswered, hmerged, -⟩ := carol_merged
  exact not_verified _ (h.merged hc hanswered hmerged)

end Socle
