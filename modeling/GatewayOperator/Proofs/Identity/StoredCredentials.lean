import GatewayOperator.Proofs.Identity.Persistence

/-!
# Credentials that are there already

A secret may hold the name and the password of a client before anyone registers one.  They are bytes
there, and a registration looks at them as texts.  This module says when a registration leaves such
credentials alone.

## Main Definitions

* `Secret.HoldsCredentials` — bytes that are not empty stand under both keys of a client.
* `Transcript.Silent` — nothing is sent and nothing is written.

## Main Statements

* `Secret.HoldsCredentials.exists_holdsClient_iff` — such bytes are a client exactly if both are
  texts.
* `Registration.ensureClient_silent_iff` — nothing is sent or written exactly if they are, or
  if the secret cannot be read.

## Design Notes

Texts without characters have no bytes, so nothing that stands under a key is taken for an empty
entry.  What goes wrong is the other filter: bytes that are no text count as missing.
-/

namespace GatewayOperator

/-! ### Bytes under the keys of a client -/

namespace Secret

variable {secret : Secret} {id password bytes : Bytes} {key text : String}

/-- Bytes of a name and of a password stand under the keys of a client. -/
structure HoldsCredentials (secret : Secret) (id password : Bytes) : Prop where
  /-- The bytes of the name. -/
  stored_id : secret.data.bind (·.get? clientIdKey) = some id
  /-- The bytes of the password. -/
  stored_password : secret.data.bind (·.get? clientSecretKey) = some password
  /-- The name is not empty. -/
  id_ne_nil : id ≠ []
  /-- The password is not empty. -/
  password_ne_nil : password ≠ []

/-- Bytes that are not empty are what a text is read from. -/
theorem holds_iff (there : secret.data.bind (·.get? key) = some bytes) (nonempty : bytes ≠ []) :
    secret.Holds key text ↔ Bytes.text? bytes = some text := by
  have value : secret.value? key = Bytes.text? bytes := by
    unfold value?
    rw [there]
  unfold Holds
  rw [value]
  refine ⟨And.left, fun reads => ⟨reads, ?_⟩⟩
  rintro rfl
  exact nonempty (Bytes.ofText_of_text? reads).symm

/-- The credentials are a client exactly if both of them are texts. -/
theorem HoldsCredentials.exists_holdsClient_iff (holds : secret.HoldsCredentials id password) :
    (∃ client, secret.HoldsClient client) ↔
      (Bytes.text? id).isSome = true ∧ (Bytes.text? password).isSome = true := by
  simp only [HoldsClient, holds_iff holds.stored_id holds.id_ne_nil,
    holds_iff holds.stored_password holds.password_ne_nil, Option.isSome_iff_exists]
  exact ⟨fun ⟨client, name, secret⟩ => ⟨⟨client.1, name⟩, client.2, secret⟩,
    fun ⟨⟨name, hname⟩, secret, hsecret⟩ => ⟨(name, secret), hname, hsecret⟩⟩

end Secret

/-! ### Runs in which nothing happens -/

/-- Nothing is sent and nothing is written. -/
def Transcript.Silent (t : Transcript) : Prop :=
  ∀ x ∈ t, x.query.ReadOnly ∧ ∀ request, x.query ≠ .fetch request

/-- Reading a secret is no more than that. -/
theorem Transcript.silent_getSecret {ns name : String} (answer : Except StoreError Secret) :
    Silent [⟨.getSecret ns name, answer⟩] := by
  intro x mem
  obtain rfl := List.mem_singleton.mp mem
  exact ⟨trivial, fun _ => nofun⟩

/-- Where there is no client, the provider is asked to describe itself. -/
theorem Conversation.Follows.exists_fetch {talk : Conversation} {r : Registration}
    {secret : Secret} (follows : talk.Follows r secret)
    (unregistered : ∀ client, ¬secret.HoldsClient client) :
    ∃ x ∈ talk.transcript, ∃ request, x.query = .fetch request := by
  have asked := follows.discovers.mpr unregistered
  have some_ : talk.transcript ≠ [] := by
    cases talk with
    | silent => cases asked
    | described discovery => exact List.cons_ne_nil _ _
    | registered discovery token registration => exact List.cons_ne_nil _ _
  obtain ⟨x, mem⟩ := List.exists_mem_of_ne_nil _ some_
  exact ⟨x, mem, talk.fetches x mem⟩

namespace Registration

variable {σ : Type} {answers : Responder σ} {s s' : σ} {t : Transcript} {r : Registration}
  {ns : String} {outcome : Except Failure ProvisionOutcome} {secret : Secret}
  {id password : Bytes}

/-- Nothing is sent or written, for the secret cannot be read or there is a client, or the provider
is talked to because there is none. -/
theorem ensureClient_silent_or (run : (r.ensureClient ns).run.Yields answers s t outcome s') :
    t.Silent ∧ ProvisionCall.Idle ⟨ns, r.secretName⟩ ⟨t, outcome⟩ ∧
        ((∃ why, t = [⟨.getSecret ns r.secretName, .error why⟩]) ∨
          ∃ found rest, t = ⟨.getSecret ns r.secretName, .ok found⟩ :: rest ∧
            ∃ client, found.HoldsClient client) ∨
      ¬t.Silent ∧ ∃ found rest, t = ⟨.getSecret ns r.secretName, .ok found⟩ :: rest ∧
        ∀ client, ¬found.HoldsClient client := by
  -- Talking to the provider is sending, whatever comes before and behind it.
  have loud {found : Secret} {talk : Conversation} (follows : talk.Follows r found)
      (unregistered : ∀ client, ¬found.HoldsClient client) {read : Answered} {rest : Transcript} :
      ¬Transcript.Silent (read :: (talk.transcript ++ rest)) := by
    intro silent
    obtain ⟨x, mem, request, fetches⟩ := follows.exists_fetch unregistered
    have part : x ∈ read :: (talk.transcript ++ rest) := by simp [mem]
    exact (silent x part).2 request fetches
  cases ensureClient_provisions run with
  | @unread why =>
    exact Or.inl ⟨Transcript.silent_getSecret _, Or.inl ⟨why, rfl, rfl⟩, Or.inl ⟨why, rfl⟩⟩
  | @found secret client holds =>
    exact Or.inl ⟨Transcript.silent_getSecret _, Or.inr ⟨secret, rfl, rfl⟩,
      Or.inr ⟨secret, [], rfl, client, holds⟩⟩
  | @failed secret talk e unregistered follows =>
    refine Or.inr ⟨?_, secret, _, rfl, unregistered⟩
    rw [← List.append_nil talk.transcript]
    exact loud follows unregistered
  | unwritten unregistered follows =>
    exact Or.inr ⟨loud follows unregistered, _, _, rfl, unregistered⟩
  | written unregistered follows =>
    exact Or.inr ⟨loud follows unregistered, _, _, rfl, unregistered⟩

/-- **Credentials that are texts are left alone, and no others.**  Take a secret in which bytes
stand under both keys of a client, and whatever else, and a registration for it.  Whatever the
cluster and the network answer, nothing is sent and nothing is written exactly if both are texts, or
if the secret could not be read.  If they are, the registration asks for nothing but the secret. -/
theorem ensureClient_silent_iff (holds : secret.HoldsCredentials id password)
    (stored : ∀ found mid, answers (.getSecret ns r.secretName) s (.ok found) mid → found = secret)
    (run : (r.ensureClient ns).run.Yields answers s t outcome s') :
    (t.Silent ↔ (∃ why, t = [⟨.getSecret ns r.secretName, .error why⟩]) ∨
        (Bytes.text? id).isSome = true ∧ (Bytes.text? password).isSome = true) ∧
      ((Bytes.text? id).isSome = true ∧ (Bytes.text? password).isSome = true →
        ProvisionCall.Idle ⟨ns, r.secretName⟩ ⟨t, outcome⟩) := by
  have led := run.leads
  rw [← holds.exists_holdsClient_iff]
  rcases ensureClient_silent_or run with
    ⟨silent, idle, unread | ⟨found, rest, rfl, client⟩⟩ | ⟨loud, found, rest, rfl, unregistered⟩
  · exact ⟨⟨fun _ => Or.inl unread, fun _ => silent⟩, fun _ => idle⟩
  · obtain ⟨mid, read, -⟩ := led
    obtain rfl := stored found mid read
    exact ⟨⟨fun _ => Or.inr client, fun _ => silent⟩, fun _ => idle⟩
  · obtain ⟨mid, read, -⟩ := led
    obtain rfl := stored found mid read
    have none_ : ¬∃ client, found.HoldsClient client := fun ⟨client, holds⟩ =>
      unregistered client holds
    refine ⟨⟨fun silent => absurd silent loud, ?_⟩, fun client => absurd client none_⟩
    rintro (⟨why, impossible⟩ | client)
    · cases impossible
    · exact absurd client none_

end Registration

/-- A secret with a password, and with some bytes for the name of a client. -/
def secretWithId (id : Bytes) : Secret :=
  ⟨{ name := some "client" },
    some (Dict.ofList [(clientIdKey, id), (clientSecretKey, Bytes.ofText "kept")]), none⟩

/-- A world with that secret, and with a provider that registers clients. -/
def worldWithId (id : Bytes) : World :=
  { worldWithTokens with
    cluster := { secrets := Dict.ofList [(⟨"apps", "client"⟩, secretWithId id)] } }

theorem holdsCredentials_secretWithId {id : Bytes} (nonempty : id ≠ []) :
    (secretWithId id).HoldsCredentials id (Bytes.ofText "kept") where
  stored_id := by
    simp [secretWithId, Dict.ofList_eq_insertAll, Dict.get?_insert, clientIdKey, clientSecretKey]
  stored_password := by
    simp [secretWithId, Dict.ofList_eq_insertAll]
  id_ne_nil := nonempty
  password_ne_nil := by decide

/-- A name with an accent is left alone. -/
theorem accented_name_left_alone : ∃ t outcome c',
    (sampleRegistration.ensureClient "apps").run.Yields
        (worldWithId (Bytes.ofText "clé")).platform.Answers
        (worldWithId (Bytes.ofText "clé")).cluster t outcome c' ∧
      (secretWithId (Bytes.ofText "clé")).HoldsCredentials (Bytes.ofText "clé")
        (Bytes.ofText "kept") ∧ t.Silent := by
  have run := (worldWithId (Bytes.ofText "clé")).yields_transcript
    (sampleRegistration.ensureClient "apps").run
  have holds : (secretWithId (Bytes.ofText "clé")).HoldsCredentials (Bytes.ofText "clé")
      (Bytes.ofText "kept") := holdsCredentials_secretWithId (by decide)
  refine ⟨_, _, _, run, holds, ?_⟩
  refine (Registration.ensureClient_silent_iff holds (fun found mid read => ?_) run).1.mpr
    (Or.inr ⟨by rw [Bytes.text?_ofText]; rfl, by rw [Bytes.text?_ofText]; rfl⟩)
  exact Option.some.inj ((Platform.answers_getSecret read).symm.trans rfl)

/-- A name in bytes that are no text counts as missing, so a client is registered and its name and
password are written over what was there. -/
theorem unreadable_name_overwritten :
    (secretWithId [0xff, 0xfe]).HoldsCredentials [0xff, 0xfe] (Bytes.ofText "kept") ∧
      ((worldWithId [0xff, 0xfe]).transcript
        (sampleRegistration.ensureClient "apps").run).filterMap Answered.sent? =
          [("https://idp/config", none), ("https://idp/clients", none)] ∧
      (((worldWithId [0xff, 0xfe]).perform
        (sampleRegistration.ensureClient "apps").run).2.cluster.secrets.get? ⟨"apps", "client"⟩).map
          (fun secret => (secret.value? clientIdKey, secret.value? clientSecretKey)) =
        some (some "a", some "b") :=
  ⟨holdsCredentials_secretWithId (by decide), by decide +kernel, by decide +kernel⟩

end GatewayOperator
