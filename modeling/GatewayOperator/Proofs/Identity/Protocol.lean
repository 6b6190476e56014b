import GatewayOperator.Proofs.Resolution
import GatewayOperator.Proofs.Text.Trimming
import GatewayOperator.Proofs.Worlds

/-!
# The protocol of a registration

A registration reads its secret, asks the provider to describe itself, asks for a token if it needs
one and may have one, registers a client and writes the client into the secret.  Which of these
steps are taken is a matter of the secret and of the answers alone.

## Main Definitions

* `Inquiry` — a request with its answer, and what the answer says.
* `Conversation` — the inquiries with a provider, in the only orders in which they come.
* `Secret.Holds`, `Secret.HoldsLine` — what stands in a secret.
* `Secret.AcceptsAnyCertificate` — the secret lets the provider show any certificate.
* `Identifies` — how a registration identifies itself.
* `Conversation.Follows` — a conversation has the inquiries that secret and answers call for.
* `Registration.Provisions` — the ways in which a registration may go.

## Main Statements

* `Registration.ensureClient_provisions` — every run goes in one of these ways.
* `Registration.ensureClient_follows` — which requests are sent, and when the secret is written.

## Design Notes

Nothing is assumed about whoever answers: any call may be refused, and any request may be answered
with anything or not at all.
-/

namespace GatewayOperator

/-! ### Inquiries -/

/-- A request with its answer, or with the reason for which there is none. -/
structure Inquiry where
  /-- The request. -/
  request : HttpRequest
  /-- The answer. -/
  answer : Except String HttpResponse

namespace Inquiry

/-- The inquiry as a question that was answered. -/
def answered (x : Inquiry) : Answered := ⟨.fetch x.request, x.answer⟩

/-- What the answer says, if it reports success and can be read. -/
def said? {α : Type} (read : Json.Read α) (x : Inquiry) : Option α :=
  match x.answer with
  | .ok response =>
    if 200 ≤ response.status ∧ response.status < 300 then
      match Json.read response.body with
      | .ok value => read value
      | .error _ => none
    else none
  | .error _ => none

/-- Where clients are registered, if the answer is a description that says so. -/
def registrationEndpoint? (x : Inquiry) : Option String :=
  (x.said? ProviderDescription.ofJson?).bind fun provider =>
    provider.registrationEndpoint.bind Text.nonEmpty?

/-- Where tokens are given out, if the answer is a description that says so. -/
def tokenEndpoint? (x : Inquiry) : Option String :=
  (x.said? ProviderDescription.ofJson?).bind fun provider =>
    provider.tokenEndpoint.bind Text.nonEmpty?

/-- The token that the answer gives. -/
def token? (x : Inquiry) : Option String :=
  (x.said? TokenAnswer.ofJson?).bind fun answer => answer.accessToken.bind Text.nonEmpty?

/-- The name and the password of the client that the answer gives. -/
def client? (x : Inquiry) : Option (String × String) := do
  let answer ← x.said? RegistrationAnswer.ofJson?
  let id ← answer.clientId.bind Text.nonEmpty?
  let password ← answer.clientSecret.bind Text.nonEmpty?
  return (id, password)

/-- What is read from an answer is what the answer says. -/
theorem said?_ok {α : Type} {read : Json.Read α} (url : String) {request : HttpRequest}
    {response : HttpResponse} :
    said? read ⟨request, .ok response⟩ = (readAnswer read url response).toOption := by
  unfold said? readAnswer
  dsimp only
  cases status : response.isSuccess with
  | false =>
    rw [if_neg (mt HttpResponse.isSuccess_iff.mpr (Bool.eq_false_iff.mp status))]
    rfl
  | true =>
    rw [if_pos (HttpResponse.isSuccess_iff.mp status)]
    cases Json.read response.body with
    | error fault => rfl
    | ok json => cases found : read json <;> simp [found, Except.toOption]

/-- The name and the password of a client are not empty. -/
theorem client?_nonEmpty {x : Inquiry} {client : String × String}
    (given : x.client? = some client) : client.1 ≠ "" ∧ client.2 ≠ "" := by
  unfold client? at given
  obtain ⟨answer, -, rest⟩ := Option.bind_eq_some_iff.mp given
  obtain ⟨id, hid, rest⟩ := Option.bind_eq_some_iff.mp rest
  obtain ⟨password, hpassword, same⟩ := Option.bind_eq_some_iff.mp rest
  cases same
  exact ⟨(Text.bind_nonEmpty?_eq_some_iff.mp hid).2,
    (Text.bind_nonEmpty?_eq_some_iff.mp hpassword).2⟩

end Inquiry

/-- The inquiries with a provider: none, its description, or that and a registration, with a token
asked for in between or not. -/
inductive Conversation where
  /-- Nothing is sent. -/
  | silent
  /-- The provider is asked to describe itself. -/
  | described (discovery : Inquiry)
  /-- Then a token may be asked for, and a client is registered. -/
  | registered (discovery : Inquiry) (token : Option Inquiry) (registration : Inquiry)

namespace Conversation

/-- The inquiries, in order. -/
def inquiries : Conversation → List Inquiry
  | .silent => []
  | .described discovery => [discovery]
  | .registered discovery token registration => discovery :: (token.toList ++ [registration])

/-- The inquiries as questions that were answered. -/
def transcript (talk : Conversation) : Transcript := talk.inquiries.map Inquiry.answered

/-- The inquiry in which the provider describes itself. -/
def discovery? : Conversation → Option Inquiry
  | .silent => none
  | .described discovery => some discovery
  | .registered discovery _ _ => some discovery

/-- The inquiry in which a token is asked for. -/
def token? : Conversation → Option Inquiry
  | .registered _ token _ => token
  | _ => none

/-- The inquiry in which a client is registered. -/
def registration? : Conversation → Option Inquiry
  | .registered _ _ registration => some registration
  | _ => none

/-- Where clients are registered, if the provider has said so. -/
def registrationEndpoint? (talk : Conversation) : Option String :=
  talk.discovery?.bind Inquiry.registrationEndpoint?

/-- Where tokens are given out, if the provider has said so. -/
def tokenEndpoint? (talk : Conversation) : Option String :=
  talk.discovery?.bind Inquiry.tokenEndpoint?

/-- The client that the provider has registered. -/
def client? (talk : Conversation) : Option (String × String) :=
  talk.registration?.bind Inquiry.client?

theorem client?_nonEmpty {talk : Conversation} {client : String × String}
    (given : talk.client? = some client) : client.1 ≠ "" ∧ client.2 ≠ "" := by
  obtain ⟨registration, -, given⟩ := Option.bind_eq_some_iff.mp given
  exact registration.client?_nonEmpty given

/-- A conversation consists of requests. -/
theorem fetches (talk : Conversation) :
    ∀ x ∈ talk.transcript, ∃ request, x.query = .fetch request := by
  intro x mem
  obtain ⟨inquiry, -, rfl⟩ := List.mem_map.mp mem
  exact ⟨inquiry.request, rfl⟩

theorem readOnly (talk : Conversation) : ∀ x ∈ talk.transcript, x.query.ReadOnly := by
  intro x mem
  obtain ⟨inquiry, -, rfl⟩ := List.mem_map.mp mem
  trivial

end Conversation

/-! ### What stands in a secret -/

namespace Secret

/-- A data entry is a text that is not empty. -/
def Holds (secret : Secret) (key text : String) : Prop := secret.value? key = some text ∧ text ≠ ""

/-- A data entry is a text that is not empty without the line ends at its end. -/
def HoldsLine (secret : Secret) (key line : String) : Prop :=
  ∃ text, secret.value? key = some text ∧
    Text.trimEndBy (fun c => c = '\n' || c = '\r') text = line ∧ line ≠ ""

/-- There is a client. -/
def HoldsClient (secret : Secret) (client : String × String) : Prop :=
  secret.Holds clientIdKey client.1 ∧ secret.Holds clientSecretKey client.2

/-- There are a name and a password for registrations. -/
def HoldsUser (secret : Secret) (user : String × String) : Prop :=
  secret.Holds "baUsername" user.1 ∧ secret.Holds "baPassword" user.2

/-- There is a token for registrations. -/
def HoldsToken (secret : Secret) (token : String) : Prop :=
  secret.HoldsLine "initialAccessToken" token

/-- There are a name and a password with which a token can be asked for. -/
def HoldsTokenClient (secret : Secret) (client : String × String) : Prop :=
  secret.HoldsLine "tokenRetrievalClientId" client.1 ∧
    secret.HoldsLine "tokenRetrievalClientSecret" client.2

/-- Any certificate is to be accepted: there is a data entry that is `true` between blanks, whatever
the case of its letters. -/
def AcceptsAnyCertificate (secret : Secret) : Prop :=
  ∃ text left word right, secret.value? "insecureTLS" = some text ∧
    text.toList = left ++ word ++ right ∧ (∀ c ∈ left ++ right, Text.isBlank c = true) ∧
    word.map Char.toLower = ['t', 'r', 'u', 'e']

/-- A secret with a client in it holds that client. -/
theorem holdsClient_secretWithClient (secret : Secret) {client : String × String}
    (nonempty : client.1 ≠ "" ∧ client.2 ≠ "") :
    (Registration.secretWithClient secret client).HoldsClient client := by
  have different : clientIdKey ≠ clientSecretKey := by decide
  refine ⟨⟨?_, nonempty.1⟩, ⟨?_, nonempty.2⟩⟩
  · simp [Registration.secretWithClient, setEntry, value?, Dict.get?_insert, different,
      Bytes.text?_ofText]
  · simp [Registration.secretWithClient, setEntry, value?, Bytes.text?_ofText]

end Secret

namespace Credential

variable {secret : Secret} {name key text : String}

theorem entry?_eq_some_iff : entry? secret key = some text ↔ secret.Holds key text :=
  Text.bind_nonEmpty?_eq_some_iff

theorem trimmedEntry?_eq_some_iff :
    trimmedEntry? secret key = some text ↔ secret.HoldsLine key text := by
  unfold trimmedEntry? Secret.HoldsLine
  rw [Text.bind_nonEmpty?_eq_some_iff, Option.map_eq_some_iff]
  constructor
  · rintro ⟨⟨whole, found, rfl⟩, nonempty⟩
    exact ⟨whole, found, rfl, nonempty⟩
  · rintro ⟨whole, found, rfl, nonempty⟩
    exact ⟨⟨whole, found, rfl⟩, nonempty⟩

theorem flag_eq_true_iff :
    flag secret "insecureTLS" = true ↔ secret.AcceptsAnyCertificate := by
  unfold flag Secret.AcceptsAnyCertificate
  cases secret.value? "insecureTLS" with
  | none => simp
  | some text =>
    have reads : Text.lowerLatin (Text.trim text) = "true" ↔ _ :=
      Text.lowerLatin_trim_eq_iff (by simp [Text.isBlank])
    simp only [decide_eq_true_eq, reads, Option.some.injEq, exists_and_left, exists_eq_left']
    rfl

/-- A secret reads as registered where it holds a client. -/
theorem isRegistered_iff :
    (ofSecret name secret).isRegistered = true ↔ ∃ client, secret.HoldsClient client := by
  unfold isRegistered
  rw [Bool.and_eq_true, Option.isSome_iff_exists, Option.isSome_iff_exists]
  constructor
  · rintro ⟨⟨id, hid⟩, password, hpassword⟩
    exact ⟨(id, password), entry?_eq_some_iff.mp hid, entry?_eq_some_iff.mp hpassword⟩
  · rintro ⟨client, hid, hpassword⟩
    exact ⟨⟨_, entry?_eq_some_iff.mpr hid⟩, _, entry?_eq_some_iff.mpr hpassword⟩

/-- What a secret says about who registers: a name with a password, a token, or nothing. -/
theorem authorization?_cases (name : String) (secret : Secret) :
    (∃ user, secret.HoldsUser user ∧
      (ofSecret name secret).authorization? = some (.basic user.1 user.2)) ∨
    (∀ user, ¬secret.HoldsUser user) ∧
      ((∃ token, secret.HoldsToken token ∧
        (ofSecret name secret).authorization? = some (.bearer token)) ∨
      (∀ token, ¬secret.HoldsToken token) ∧ (ofSecret name secret).authorization? = none) := by
  unfold authorization?
  split
  · next username password hname hpassword =>
    exact Or.inl ⟨(username, password),
      ⟨entry?_eq_some_iff.mp hname, entry?_eq_some_iff.mp hpassword⟩, rfl⟩
  · next incomplete =>
    refine Or.inr ⟨fun user holds => ?_, ?_⟩
    · exact incomplete user.1 user.2 (entry?_eq_some_iff.mpr holds.1)
        (entry?_eq_some_iff.mpr holds.2)
    · cases found : (ofSecret name secret).initialAccessToken with
      | some token => exact Or.inl ⟨token, trimmedEntry?_eq_some_iff.mp found, rfl⟩
      | none =>
        refine Or.inr ⟨fun token holds => ?_, rfl⟩
        have there : (ofSecret name secret).initialAccessToken = some token :=
          trimmedEntry?_eq_some_iff.mpr holds
        rw [found] at there
        cases there

theorem authorization?_eq_none_iff :
    (ofSecret name secret).authorization? = none ↔
      (∀ user, ¬secret.HoldsUser user) ∧ ∀ token, ¬secret.HoldsToken token := by
  rcases authorization?_cases name secret with
    ⟨user, holds, given⟩ | ⟨nobody, ⟨token, holds, given⟩ | ⟨without, given⟩⟩
  · simp only [given, reduceCtorEq, false_iff, not_and]
    exact fun nobody => absurd holds (nobody user)
  · simp only [given, reduceCtorEq, false_iff, not_and]
    exact fun _ without => without token holds
  · simp only [given, true_iff]
    exact ⟨nobody, without⟩

theorem holdsTokenClient_iff :
    (∃ client, secret.HoldsTokenClient client) ↔
      (ofSecret name secret).tokenClientId.isSome = true ∧
        (ofSecret name secret).tokenClientSecret.isSome = true := by
  rw [Option.isSome_iff_exists, Option.isSome_iff_exists]
  constructor
  · rintro ⟨client, hid, hpassword⟩
    exact ⟨⟨_, trimmedEntry?_eq_some_iff.mpr hid⟩, _, trimmedEntry?_eq_some_iff.mpr hpassword⟩
  · rintro ⟨⟨id, hid⟩, password, hpassword⟩
    exact ⟨(id, password), trimmedEntry?_eq_some_iff.mp hid,
      trimmedEntry?_eq_some_iff.mp hpassword⟩

end Credential

/-- How a registration identifies itself: by the name and the password in its secret, else by the
token in its secret, else by a token that it has asked for, else not at all. -/
inductive Identifies (secret : Secret) (asked : Option String) : Option Authorization → Prop
  /-- There are a name and a password. -/
  | basic {user : String × String} (holds : secret.HoldsUser user) :
      Identifies secret asked (some (.basic user.1 user.2))
  /-- There is a token. -/
  | initial {token : String} (nobody : ∀ user, ¬secret.HoldsUser user)
      (holds : secret.HoldsToken token) : Identifies secret asked (some (.bearer token))
  /-- There is neither, and a token was given. -/
  | acquired {token : String} (nobody : ∀ user, ¬secret.HoldsUser user)
      (without : ∀ token, ¬secret.HoldsToken token) (given : asked = some token) :
      Identifies secret asked (some (.bearer token))
  /-- There is nothing. -/
  | anonymous (nobody : ∀ user, ¬secret.HoldsUser user)
      (without : ∀ token, ¬secret.HoldsToken token) (ungiven : asked = none) :
      Identifies secret asked none

theorem identifies_authorization? (name : String) (secret : Secret) (asked : Option String) :
    Identifies secret asked
      ((Credential.ofSecret name secret).authorization?.or (asked.map .bearer)) := by
  rcases Credential.authorization?_cases name secret with
    ⟨user, holds, given⟩ | ⟨nobody, ⟨token, holds, given⟩ | ⟨without, given⟩⟩
  · rw [given]
    exact .basic holds
  · rw [given]
    exact .initial nobody holds
  · rw [given, Option.none_or]
    cases asked with
    | some token => exact .acquired nobody without rfl
    | none => exact .anonymous nobody without rfl

/-- A conversation has the inquiries that the secret of a registration and the provider's answers
call for. -/
structure Conversation.Follows (talk : Conversation) (r : Registration) (secret : Secret) :
    Prop where
  /-- Every request accepts any certificate where the secret says so, and only there. -/
  insecureTls : ∀ x ∈ talk.inquiries,
    x.request.insecureTls = true ↔ secret.AcceptsAnyCertificate
  /-- The provider is asked to describe itself unless there is a client. -/
  discovers : talk.discovery?.isSome = true ↔ ∀ client, ¬secret.HoldsClient client
  /-- It is asked where the registration says. -/
  discovery : ∀ x ∈ talk.discovery?, x.request.method = .get ∧ x.request.url = r.discoveryEndpoint
  /-- A token is asked for where clients can be registered and tokens are given out, the secret does
  not say who registers, and it says who asks for the token. -/
  acquires : talk.token?.isSome = true ↔
    talk.registrationEndpoint?.isSome = true ∧ talk.tokenEndpoint?.isSome = true ∧
      (∀ user, ¬secret.HoldsUser user) ∧ (∀ token, ¬secret.HoldsToken token) ∧
      ∃ client, secret.HoldsTokenClient client
  /-- It is asked for where the provider says, in the name that the secret says. -/
  token : ∀ x ∈ talk.token?, x.request.method = .post ∧
    talk.tokenEndpoint? = some x.request.url ∧
    ∃ client, secret.HoldsTokenClient client ∧ x.request.body = some (r.tokenForm client)
  /-- A client is registered where that can be done, whatever has become of the token. -/
  registers : talk.registration?.isSome = true ↔ talk.registrationEndpoint?.isSome = true
  /-- It is registered where the provider says, with the fields of the registration. -/
  registration : ∀ x ∈ talk.registration?, x.request.method = .post ∧
    talk.registrationEndpoint? = some x.request.url ∧ x.request.body = some r.body.write ∧
    Identifies secret (talk.token?.bind Inquiry.token?) x.request.authorization

/-! ### One inquiry -/

variable {σ : Type} {answers : Responder σ} {s s' : σ} {t : Transcript}

/-- A request comes to what is picked from what its answer says, if that is there. -/
theorem inquire_yields {α β : Type} {request : HttpRequest} {url : String} {read : Json.Read α}
    {next : α → Attempt β} {result : Except Failure β} (pick : α → Option β)
    (picks : ∀ a, (∃ b, pick a = some b ∧ next a = pure b) ∨
      pick a = none ∧ ∃ failure, next a = throw failure)
    (run : (do
      let response ← Attempt.fetch request
      let a ← Attempt.ofExcept (readAnswer read url response)
      next a).run.Yields answers s t result s') :
    ∃ x : Inquiry, x.request = request ∧ t = [x.answered] ∧
      result.toOption = (x.said? read).bind pick := by
  rcases Attempt.yields_bind.mp run with ⟨e, rfl, failed⟩ | ⟨response, _, _, _, sent, run₁, rfl⟩
  · obtain ⟨answer, -, rfl, unanswered⟩ := Attempt.yields_fetch.mp failed
    cases answer with
    | ok response => cases unanswered
    | error reason => exact ⟨⟨request, .error reason⟩, rfl, rfl, rfl⟩
  obtain ⟨answer, -, rfl, answered⟩ := Attempt.yields_fetch.mp sent
  cases answer with
  | error reason => cases answered
  | ok found =>
    cases answered
    refine ⟨⟨request, .ok response⟩, rfl, ?_⟩
    rw [Inquiry.said?_ok url]
    rcases Attempt.yields_bind.mp run₁ with
      ⟨e, rfl, rfl, unread, -⟩ | ⟨a, _, _, _, ⟨rfl, read, rfl⟩, run₂, rfl⟩
    · rw [← unread]
      exact ⟨rfl, rfl⟩
    · rw [← read]
      rcases picks a with ⟨b, picked, given⟩ | ⟨picked, failure, missing⟩
      · rw [given] at run₂
        obtain ⟨rfl, rfl, -⟩ := run₂
        exact ⟨rfl, picked.symm⟩
      · rw [missing] at run₂
        obtain ⟨rfl, rfl, -⟩ := run₂
        exact ⟨rfl, picked.symm⟩

namespace Registration

variable {r : Registration} {ns : String} {provider : ProviderDescription} {c : Credential}

theorem discover_yields {insecureTls : Bool} {result : Except Failure ProviderDescription}
    (run : (r.discover insecureTls).run.Yields answers s t result s') :
    ∃ x : Inquiry, x.request = { method := .get, url := r.discoveryEndpoint, insecureTls } ∧
      t = [x.answered] ∧ result.toOption = x.said? ProviderDescription.ofJson? := by
  unfold discover at run
  rw [← bind_pure (Attempt.fetch _ >>= _), bind_assoc] at run
  obtain ⟨x, sent, asked, said⟩ :=
    inquire_yields some (fun provider => Or.inl ⟨provider, rfl, rfl⟩) run
  rw [Option.bind_fun_some] at said
  exact ⟨x, sent, asked, said⟩

theorem register_yields {endpoint : String} {authorization : Option Authorization}
    {insecureTls : Bool} {result : Except Failure (String × String)}
    (run : (r.register endpoint authorization insecureTls).run.Yields answers s t result s') :
    ∃ x : Inquiry, x.request =
        { method := .post
          url := endpoint
          body := some r.body.write
          authorization
          insecureTls } ∧
      t = [x.answered] ∧ result.toOption = x.client? := by
  obtain ⟨x, sent, asked, said⟩ := inquire_yields RegistrationAnswer.credentials?
    (fun answer => by
      cases answer.credentials? with
      | some credentials => exact Or.inl ⟨credentials, rfl, rfl⟩
      | none => exact Or.inr ⟨rfl, _, rfl⟩) run
  refine ⟨x, sent, asked, said.trans (congrArg _ (funext fun answer => ?_))⟩
  unfold RegistrationAnswer.credentials?
  cases answer.clientId.bind Text.nonEmpty? with
  | none => rfl
  | some id => cases answer.clientSecret.bind Text.nonEmpty? <;> rfl

/-- A token is asked for where the provider says where and the secret says in whose name. -/
theorem acquireToken_yields {result : Except Failure String}
    (run : (r.acquireToken provider c).run.Yields answers s t result s') :
    (t = [] ∧ result.toOption = none ∧
      ((provider.tokenEndpoint.bind Text.nonEmpty?).isSome = true →
        ¬(c.tokenClientId.isSome = true ∧ c.tokenClientSecret.isSome = true))) ∨
    ∃ (x : Inquiry) (endpoint : String) (client : String × String),
      provider.tokenEndpoint.bind Text.nonEmpty? = some endpoint ∧
      c.tokenClientId = some client.1 ∧ c.tokenClientSecret = some client.2 ∧
      x.request =
        { method := .post
          url := endpoint
          body := some (r.tokenForm client)
          insecureTls := c.insecureTls } ∧
      t = [x.answered] ∧ result.toOption = x.token? := by
  unfold acquireToken tokenEndpoint tokenClient at run
  cases place : provider.tokenEndpoint.bind Text.nonEmpty? with
  | none =>
    rw [place] at run
    obtain ⟨rfl, rfl, -⟩ := Attempt.yields_error_bind.mp run
    exact Or.inl ⟨rfl, rfl, by simp⟩
  | some endpoint =>
    rw [place] at run
    have run₁ := Attempt.yields_ok_bind.mp run
    split at run₁
    · next id password hid hpassword =>
      have run₂ := Attempt.yields_ok_bind.mp run₁
      obtain ⟨x, sent, asked, said⟩ := inquire_yields
        (fun answer => answer.accessToken.bind Text.nonEmpty?)
        (fun answer => by
          cases answer.accessToken.bind Text.nonEmpty? with
          | some token => exact Or.inl ⟨token, rfl, rfl⟩
          | none => exact Or.inr ⟨rfl, _, rfl⟩) run₂
      exact Or.inr ⟨x, endpoint, (id, password), rfl, hid, hpassword, sent, asked, said⟩
    · next incomplete =>
      obtain ⟨rfl, rfl, -⟩ := Attempt.yields_error_bind.mp run₁
      refine Or.inl ⟨rfl, rfl, fun _ => ?_⟩
      rintro ⟨hid, hpassword⟩
      obtain ⟨id, hid⟩ := Option.isSome_iff_exists.mp hid
      obtain ⟨password, hpassword⟩ := Option.isSome_iff_exists.mp hpassword
      exact incomplete id password hid hpassword

/-- The secret says by itself who registers, or a token is asked for and it does not matter whether
one is given. -/
theorem authorize_yields {result : Except Failure (Option Authorization)}
    (run : (r.authorize provider c).run.Yields answers s t result s') :
    ∃ token : Option Inquiry, t = token.toList.map Inquiry.answered ∧
      result = .ok (c.authorization?.or ((token.bind Inquiry.token?).map .bearer)) ∧
      (token.isSome = true ↔ c.authorization? = none ∧
        (provider.tokenEndpoint.bind Text.nonEmpty?).isSome = true ∧
        c.tokenClientId.isSome = true ∧ c.tokenClientSecret.isSome = true) ∧
      ∀ x ∈ token, ∃ endpoint client,
        provider.tokenEndpoint.bind Text.nonEmpty? = some endpoint ∧
        c.tokenClientId = some client.1 ∧ c.tokenClientSecret = some client.2 ∧
        x.request =
          { method := .post
            url := endpoint
            body := some (r.tokenForm client)
            insecureTls := c.insecureTls } := by
  unfold authorize at run
  cases own : c.authorization? with
  | some authorization =>
    rw [own] at run
    obtain ⟨rfl, rfl, -⟩ := run
    exact ⟨none, rfl, rfl, by simp, by simp⟩
  | none =>
    rw [own] at run
    obtain ⟨acquired, mid, before, after, asked, last, rfl⟩ := Program.yields_bind.mp run
    have answered : after = [] ∧ result = .ok (acquired.toOption.map .bearer) := by
      cases acquired with
      | ok token =>
        obtain ⟨rfl, rfl, -⟩ := last
        exact ⟨rfl, rfl⟩
      | error failure =>
        obtain ⟨rfl, rfl, -⟩ := last
        exact ⟨rfl, rfl⟩
    obtain ⟨rfl, rfl⟩ := answered
    rcases acquireToken_yields asked with
      ⟨rfl, nothing, missing⟩ | ⟨x, endpoint, client, place, id, password, sent, rfl, given⟩
    · refine ⟨none, rfl, by rw [nothing]; rfl, ?_, by simp⟩
      simp only [Option.isSome_none, Bool.false_eq_true, true_and, false_iff, not_and]
      exact fun there id password => missing there ⟨id, password⟩
    · refine ⟨some x, rfl, by rw [given]; rfl, by simp [place, id, password], ?_⟩
      intro y there
      obtain rfl := Option.mem_some.mp there
      exact ⟨endpoint, client, place, id, password, sent⟩

end Registration

/-! ### A conversation -/

namespace Conversation

variable {r : Registration} {secret : Secret}

/-- Where the provider does not say where clients are registered, nothing else is sent. -/
theorem follows_described {x : Inquiry} (unregistered : ∀ client, ¬secret.HoldsClient client)
    (sent : x.request =
      { method := .get
        url := r.discoveryEndpoint
        insecureTls := Credential.flag secret "insecureTLS" })
    (nowhere : x.registrationEndpoint? = none) : (described x).Follows r secret where
  insecureTls := by simp [inquiries, sent, Credential.flag_eq_true_iff]
  discovers := by
    simp only [discovery?, Option.isSome_some, true_iff]
    exact unregistered
  discovery := by simp [discovery?, sent]
  acquires := by simp [token?, registrationEndpoint?, discovery?, nowhere]
  token := by simp [token?]
  registers := by simp [registration?, registrationEndpoint?, discovery?, nowhere]
  registration := by simp [registration?]

/-- Otherwise a token is asked for where that is of use, and a client is registered. -/
theorem follows_registered {name endpoint : String} {x y : Inquiry} {token : Option Inquiry}
    (unregistered : ∀ client, ¬secret.HoldsClient client)
    (discovery : x.request =
      { method := .get
        url := r.discoveryEndpoint
        insecureTls := Credential.flag secret "insecureTLS" })
    (named : x.registrationEndpoint? = some endpoint)
    (asked : token.isSome = true ↔ (Credential.ofSecret name secret).authorization? = none ∧
      x.tokenEndpoint?.isSome = true ∧
      (Credential.ofSecret name secret).tokenClientId.isSome = true ∧
      (Credential.ofSecret name secret).tokenClientSecret.isSome = true)
    (asking : ∀ z ∈ token, ∃ place client, x.tokenEndpoint? = some place ∧
      (Credential.ofSecret name secret).tokenClientId = some client.1 ∧
      (Credential.ofSecret name secret).tokenClientSecret = some client.2 ∧
      z.request =
        { method := .post
          url := place
          body := some (r.tokenForm client)
          insecureTls := Credential.flag secret "insecureTLS" })
    (registration : y.request =
      { method := .post
        url := endpoint
        body := some r.body.write
        authorization := (Credential.ofSecret name secret).authorization?.or
          ((token.bind Inquiry.token?).map .bearer)
        insecureTls := Credential.flag secret "insecureTLS" }) :
    (registered x token y).Follows r secret where
  insecureTls z mem := by
    simp only [inquiries, List.mem_cons, List.mem_append, Option.mem_toList, List.not_mem_nil,
      or_false] at mem
    rcases mem with rfl | there | rfl
    · rw [discovery]
      exact Credential.flag_eq_true_iff
    · obtain ⟨_, _, -, -, -, sent⟩ := asking z there
      rw [sent]
      exact Credential.flag_eq_true_iff
    · rw [registration]
      exact Credential.flag_eq_true_iff
  discovers := by
    simp only [discovery?, Option.isSome_some, true_iff]
    exact unregistered
  discovery z there := by
    obtain rfl := Option.mem_some.mp there
    rw [discovery]
    exact ⟨rfl, rfl⟩
  acquires := by
    refine asked.trans ?_
    rw [Credential.authorization?_eq_none_iff, Credential.holdsTokenClient_iff]
    simp only [registrationEndpoint?, tokenEndpoint?, discovery?, Option.bind_some, named,
      Option.isSome_some, true_and]
    exact ⟨fun ⟨⟨nobody, without⟩, place, client⟩ => ⟨place, nobody, without, client⟩,
      fun ⟨place, nobody, without, client⟩ => ⟨⟨nobody, without⟩, place, client⟩⟩
  token z there := by
    obtain ⟨place, client, given, id, password, sent⟩ := asking z there
    rw [sent]
    exact ⟨rfl, given, client, ⟨Credential.trimmedEntry?_eq_some_iff.mp id,
      Credential.trimmedEntry?_eq_some_iff.mp password⟩, rfl⟩
  registers := by
    simp [registration?, registrationEndpoint?, discovery?, named]
  registration z there := by
    obtain rfl := Option.mem_some.mp there
    rw [registration]
    exact ⟨rfl, named, rfl, identifies_authorization? name secret _⟩

/-- A client that comes of a conversation is the answer to the request for one. -/
theorem Follows.exists_of_client? {talk : Conversation} {client : String × String}
    (follows : talk.Follows r secret) (given : talk.client? = some client) :
    ∃ x : Inquiry, x.answered ∈ talk.transcript ∧ x.request.method = .post ∧
      x.request.body = some r.body.write ∧ x.client? = some client := by
  obtain ⟨x, there, given⟩ := Option.bind_eq_some_iff.mp given
  obtain ⟨sent, -, body, -⟩ := follows.registration x there
  refine ⟨x, List.mem_map_of_mem ?_, sent, body, given⟩
  cases talk with
  | silent => cases there
  | described => cases there
  | registered discovery token registration =>
    obtain rfl : registration = x := Option.some.inj there
    simp [inquiries]

end Conversation

namespace Registration

variable {r : Registration} {ns : String}

/-- What a registration asks its provider: for its description, for a token if need be, and for a
client. -/
def negotiate (r : Registration) (c : Credential) : Attempt (String × String) := do
  let provider ← r.discover c.insecureTls
  let endpoint ← Attempt.ofExcept (r.registrationEndpoint provider)
  let authorization ← r.authorize provider c
  r.register endpoint authorization c.insecureTls

/-- Writes a client into a secret. -/
def persist (namespace_ : String) (secret : Secret) (client : String × String) :
    Attempt ProvisionOutcome := do
  match ← ExceptT.lift
      (Program.query (.replaceSecret namespace_ (secretWithClient secret client))) with
  | .ok _ =>
    Attempt.measure .registration
    return .registered client.1
  | .error cause => throw (.persistence cause)

/-- A registration reads its secret, and unless there is a client it asks for one and writes it. -/
theorem ensureClient_eq (r : Registration) (ns : String) :
    r.ensureClient ns = (do
      let secret ← Attempt.ofStore (Program.query (.getSecret ns r.secretName))
      if (Credential.ofSecret r.secretName secret).isRegistered then
        return .alreadyRegistered
      let client ← r.negotiate (.ofSecret r.secretName secret)
      persist ns secret client) := by
  unfold ensureClient negotiate
  refine bind_congr fun secret => ?_
  dsimp only
  split
  · rfl
  · rw [bind_assoc]
    refine bind_congr fun provider => ?_
    rw [bind_assoc]
    refine bind_congr fun endpoint => ?_
    rw [bind_assoc]
    rfl

/-- What is asked of the provider follows the protocol, and a client comes of it where the provider
gives one. -/
theorem negotiate_yields {secret : Secret} {name : String}
    (unregistered : ∀ client, ¬secret.HoldsClient client)
    {result : Except Failure (String × String)}
    (run : (r.negotiate (.ofSecret name secret)).run.Yields answers s t result s') :
    ∃ talk : Conversation, t = talk.transcript ∧ talk.Follows r secret ∧
      result.toOption = talk.client? := by
  rcases Attempt.yields_bind.mp run with ⟨e, rfl, failed⟩ | ⟨provider, _, _, _, found, run₁, rfl⟩
  · obtain ⟨x, sent, rfl, said⟩ := discover_yields failed
    have nowhere : x.registrationEndpoint? = none := by
      unfold Inquiry.registrationEndpoint?
      rw [← said]
      rfl
    exact ⟨.described x, rfl, Conversation.follows_described unregistered sent nowhere, rfl⟩
  obtain ⟨x, discovery, rfl, said⟩ := discover_yields found
  have place : x.registrationEndpoint? = provider.registrationEndpoint.bind Text.nonEmpty? := by
    unfold Inquiry.registrationEndpoint?
    rw [← said]
    rfl
  have tokens : x.tokenEndpoint? = provider.tokenEndpoint.bind Text.nonEmpty? := by
    unfold Inquiry.tokenEndpoint?
    rw [← said]
    rfl
  unfold registrationEndpoint at run₁
  cases named : provider.registrationEndpoint.bind Text.nonEmpty? with
  | none =>
    rw [named] at run₁
    obtain ⟨rfl, rfl, -⟩ := Attempt.yields_error_bind.mp run₁
    exact ⟨.described x, rfl,
      Conversation.follows_described unregistered discovery (place.trans named), rfl⟩
  | some endpoint =>
    rw [named] at run₁
    have run₂ := Attempt.yields_ok_bind.mp run₁
    rcases Attempt.yields_bind.mp run₂ with
      ⟨e, rfl, failed⟩ | ⟨authorization, _, _, _, authorized, made, rfl⟩
    · obtain ⟨token, -, impossible, -⟩ := authorize_yields failed
      cases impossible
    obtain ⟨token, rfl, same, asked, asking⟩ := authorize_yields authorized
    cases same
    obtain ⟨y, registration, rfl, given⟩ := register_yields made
    rw [← tokens] at asked asking
    exact ⟨.registered x token y, by simp [Conversation.transcript, Conversation.inquiries],
      Conversation.follows_registered unregistered discovery (place.trans named) asked asking
        registration, given⟩

/-! ### A registration -/

/-- The ways in which a registration may go: what is asked and answered, and what comes of it. -/
inductive Provisions (r : Registration) (ns : String) :
    Transcript → Except Failure ProvisionOutcome → Prop
  /-- The secret cannot be read. -/
  | unread {why : StoreError} :
      Provisions r ns [⟨.getSecret ns r.secretName, .error why⟩] (.error (.ofStore why))
  /-- There is a client already. -/
  | found {secret : Secret} {client : String × String} (holds : secret.HoldsClient client) :
      Provisions r ns [⟨.getSecret ns r.secretName, .ok secret⟩] (.ok .alreadyRegistered)
  /-- The provider gives no client. -/
  | failed {secret : Secret} {talk : Conversation} {e : Failure}
      (unregistered : ∀ client, ¬secret.HoldsClient client) (follows : talk.Follows r secret)
      (ungiven : talk.client? = none) :
      Provisions r ns (⟨.getSecret ns r.secretName, .ok secret⟩ :: talk.transcript) (.error e)
  /-- The client cannot be kept. -/
  | unwritten {secret : Secret} {talk : Conversation} {client : String × String} {why : StoreError}
      (unregistered : ∀ client, ¬secret.HoldsClient client) (follows : talk.Follows r secret)
      (given : talk.client? = some client) :
      Provisions r ns
        (⟨.getSecret ns r.secretName, .ok secret⟩ :: (talk.transcript ++
          [⟨.replaceSecret ns (secretWithClient secret client), .error why⟩]))
        (.error (.persistence why))
  /-- The client is kept. -/
  | written {secret stored : Secret} {talk : Conversation} {client : String × String}
      (unregistered : ∀ client, ¬secret.HoldsClient client) (follows : talk.Follows r secret)
      (given : talk.client? = some client) :
      Provisions r ns
        (⟨.getSecret ns r.secretName, .ok secret⟩ :: (talk.transcript ++
          [⟨.replaceSecret ns (secretWithClient secret client), .ok stored⟩,
            ⟨.measure .registration, ()⟩]))
        (.ok (.registered client.1))

/-- Writing a client takes one call, which is counted where it is carried out. -/
theorem persist_yields {secret : Secret} {client : String × String}
    {outcome : Except Failure ProvisionOutcome}
    (run : (persist ns secret client).run.Yields answers s t outcome s') :
    (∃ why, t = [⟨.replaceSecret ns (secretWithClient secret client), .error why⟩] ∧
      outcome = .error (.persistence why)) ∨
    ∃ stored, t = [⟨.replaceSecret ns (secretWithClient secret client), .ok stored⟩,
        ⟨.measure .registration, ()⟩] ∧
      outcome = .ok (.registered client.1) := by
  obtain ⟨answer, _, _, _, asked, run₁, rfl⟩ := Attempt.yields_lift_bind.mp run
  obtain ⟨-, rfl⟩ := Program.yields_query.mp asked
  cases answer with
  | error why =>
    obtain ⟨rfl, rfl, -⟩ := run₁
    exact Or.inl ⟨why, rfl, rfl⟩
  | ok stored =>
    obtain ⟨_, _, _, _, counted, ⟨rfl, rfl, -⟩, rfl⟩ := Attempt.yields_lift_bind.mp run₁
    obtain ⟨-, rfl⟩ := Program.yields_query.mp counted
    exact Or.inr ⟨stored, rfl, rfl⟩

/-- Every run of a registration goes in one of these ways. -/
theorem ensureClient_provisions {outcome : Except Failure ProvisionOutcome}
    (run : (r.ensureClient ns).run.Yields answers s t outcome s') : r.Provisions ns t outcome := by
  rw [ensureClient_eq] at run
  rcases Attempt.yields_ofStore_bind.mp run with
    ⟨why, asked, rfl⟩ | ⟨secret, _, _, _, asked, run₁, rfl⟩
  · obtain ⟨-, rfl⟩ := Program.yields_query.mp asked
    exact .unread
  · obtain ⟨-, rfl⟩ := Program.yields_query.mp asked
    split at run₁
    · next registered =>
      obtain ⟨client, holds⟩ := Credential.isRegistered_iff.mp registered
      obtain ⟨rfl, rfl, -⟩ := run₁
      exact .found holds
    · next unregistered =>
      have unregistered (client : String × String) : ¬secret.HoldsClient client :=
        fun holds => unregistered (Credential.isRegistered_iff.mpr ⟨client, holds⟩)
      rcases Attempt.yields_bind.mp run₁ with
        ⟨e, rfl, failed⟩ | ⟨client, _, _, _, negotiated, run₂, rfl⟩
      · obtain ⟨talk, rfl, follows, ungiven⟩ := negotiate_yields unregistered failed
        exact .failed unregistered follows ungiven.symm
      obtain ⟨talk, rfl, follows, given⟩ := negotiate_yields unregistered negotiated
      rcases persist_yields run₂ with ⟨why, rfl, rfl⟩ | ⟨stored, rfl, rfl⟩
      · exact .unwritten unregistered follows given.symm
      · exact .written unregistered follows given.symm

/-- What is written by a registration is the secret that it has read, with a client that its own
request for one was answered with. -/
theorem Provisions.of_replaceSecret {ns' : String} {object : Secret} {own rest : Transcript}
    {answer : Except StoreError Secret} {outcome : Except Failure ProvisionOutcome}
    (ways : r.Provisions ns (own ++ ⟨.replaceSecret ns' object, answer⟩ :: rest) outcome) :
    ns' = ns ∧ ∃ (secret : Secret) (client : String × String) (x : Inquiry),
      object = secretWithClient secret client ∧
      ⟨.getSecret ns r.secretName, .ok secret⟩ ∈ own ∧ x.answered ∈ own ∧
      x.request.method = .post ∧ x.request.body = some r.body.write ∧ x.client? = some client := by
  have unwritten (secret : Except StoreError Secret) (talk : Conversation) :
      (⟨.replaceSecret ns' object, answer⟩ : Answered) ∉
        ⟨.getSecret ns r.secretName, secret⟩ :: talk.transcript := by
    intro mem
    rcases List.mem_cons.mp mem with impossible | mem
    · cases impossible
    · obtain ⟨_, impossible⟩ := talk.fetches _ mem
      cases impossible
  -- Where the secret is written, what comes before is the reading and the conversation.
  have written {secret : Secret} {talk : Conversation} {client : String × String}
      {answer' : Except StoreError Secret} {counting : Transcript}
      (follows : talk.Follows r secret) (given : talk.client? = some client)
      (counts : ∀ x ∈ counting, ∃ m, x.query = .measure m)
      (same : (⟨.getSecret ns r.secretName, .ok secret⟩ :: talk.transcript) ++
        ⟨.replaceSecret ns (secretWithClient secret client), answer'⟩ :: counting =
        own ++ ⟨.replaceSecret ns' object, answer⟩ :: rest) :
      ns' = ns ∧ ∃ (secret : Secret) (client : String × String) (x : Inquiry),
        object = secretWithClient secret client ∧
        ⟨.getSecret ns r.secretName, .ok secret⟩ ∈ own ∧ x.answered ∈ own ∧
        x.request.method = .post ∧ x.request.body = some r.body.write ∧
        x.client? = some client := by
    obtain ⟨between, rfl, last⟩ := exists_eq_append_of_notMem same (unwritten _ talk)
    obtain ⟨x, asked, sent, body, given⟩ := follows.exists_of_client? given
    cases between with
    | nil =>
      obtain ⟨same, -⟩ := List.cons.inj last
      cases same
      exact ⟨rfl, secret, client, x, rfl, by simp, by simp [asked], sent, body, given⟩
    | cons y between =>
      obtain ⟨-, rfl⟩ := List.cons.inj last
      obtain ⟨_, impossible⟩ := counts ⟨.replaceSecret ns' object, answer⟩ (by simp)
      cases impossible
  generalize same : own ++ ⟨.replaceSecret ns' object, answer⟩ :: rest = t at ways written
  have mem : (⟨.replaceSecret ns' object, answer⟩ : Answered) ∈ t := by
    rw [← same]
    exact List.mem_append_right own List.mem_cons_self
  cases ways with
  | unread => exact absurd mem (unwritten _ .silent)
  | found => exact absurd mem (unwritten _ .silent)
  | failed => exact absurd mem (unwritten _ _)
  | unwritten _ follows given => exact written follows given (by simp) rfl
  | written _ follows given => exact written follows given (by simp) rfl

end Registration

/-- A registration with a provider whose answers fit on a line. -/
def sampleRegistration : Registration := ⟨"https://idp/config", "client", []⟩

/-- A world with a secret that says who asks for a token and that any certificate is accepted, and
with a provider that gives a token out. -/
def worldWithTokens : World where
  cluster :=
    { secrets := Dict.ofList
        [(⟨"apps", "client"⟩,
          ⟨{ name := some "client" },
            some (Dict.ofList
              [("tokenRetrievalClientId", Bytes.ofText "who"),
                ("tokenRetrievalClientSecret", Bytes.ofText "password\n"),
                ("insecureTLS", Bytes.ofText "True\n")]), none⟩)] }
  routes := Dict.ofList
    [("https://idp/config", ⟨200, "\x7b\"registration_endpoint\":\"https://idp/clients\"," ++
        "\"token_endpoint\":\"https://idp/tokens\"\x7d"⟩),
      ("https://idp/tokens", ⟨200, "\x7b\"access_token\":\"t\"\x7d"⟩),
      ("https://idp/clients", ⟨201, "\x7b\"client_id\":\"a\",\"client_secret\":\"b\"\x7d"⟩)]

/-- Where a request goes, and how its sender identifies itself. -/
def Answered.sent? : Answered → Option (String × Option Authorization)
  | ⟨.fetch request, _⟩ => some (request.url, request.authorization)
  | _ => none

end GatewayOperator
