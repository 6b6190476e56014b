import GatewayOperator.Proofs.Layers
import GatewayOperator.Proofs.Registering
import GatewayOperator.Proofs.Worlds

/-!
# Resolving all or nothing

A resolution that fails leaves every object as it was.  One that succeeds has changed at most the
secret of its registration, which has got a client.

## Main Definitions

* `Cluster.SameObjects` — two clusters that hold the same objects.
* `Secret.withClient` — a secret in whose data a client stands.

## Main Statements

* `Registration.ensureClient_settles` — a registration writes its secret as its last step, or
  nothing.
* `resolve_allOrNothing` — what a resolution may leave behind.

## Design Notes

Nothing is assumed about the cluster and its network but that a refused call changes no object: any
call may be refused, and any request may be answered with anything.
-/

namespace GatewayOperator

variable {P : Platform} {ns : String} {sources : List Source} {c c' mid : Cluster} {t : Transcript}

/-- Two clusters that hold the same objects. -/
def Cluster.SameObjects (c c' : Cluster) : Prop := ∃ n, c' = { c with namesGiven := n }

namespace Cluster.SameObjects

theorem refl (c : Cluster) : c.SameObjects c := ⟨c.namesGiven, rfl⟩

theorem trans (first : c.SameObjects mid) (second : mid.SameObjects c') : c.SameObjects c' := by
  obtain ⟨_, rfl⟩ := first
  obtain ⟨n, rfl⟩ := second
  exact ⟨n, rfl⟩

end Cluster.SameObjects

/-! ### Reading -/

/-- A question that only reads leaves every object as it was, whatever is refused. -/
theorem Query.ReadOnly.sameObjects {q : Query} (h : q.ReadOnly) {answer : q.Answer}
    (answered : P.Answers q c answer c') : c.SameObjects c' := by
  rcases answered with carried | ⟨-, -, n, rfl⟩
  · cases q with
    | getConfigMap | getSecret | getDeployment | fetch =>
      obtain ⟨-, rfl⟩ := carried
      exact .refl c'
    | now | measure =>
      obtain rfl := carried
      exact .refl _
    | _ => exact h.elim
  · exact ⟨n, rfl⟩

/-- A program that only reads leaves every object as it was. -/
theorem sameObjects_of_asks {α : Type} {program : Program α} {a : α}
    (reading : program.Asks Query.ReadOnly) (run : program.Yields P.Answers c t a c') :
    c.SameObjects c' :=
  run.relates Cluster.SameObjects .refl .trans
    (fun _ readOnly _ _ _ answered => readOnly.sameObjects answered) reading

/-- A transcript that only reads leaves every object as it was. -/
theorem Transcript.Leads.sameObjects (led : t.Leads P.Answers c c')
    (reading : ∀ x ∈ t, x.query.ReadOnly) : c.SameObjects c' :=
  led.relates Cluster.SameObjects .refl .trans
    (fun _ readOnly _ _ _ answered => readOnly.sameObjects answered) reading

/-- A secret that is read stands in the cluster. -/
theorem Platform.answers_getSecret {name : String} {secret : Secret}
    (answered : P.Answers (.getSecret ns name) c (.ok secret) c') :
    c.secrets.get? ⟨ns, name⟩ = some secret := by
  rcases answered with ⟨carried, -⟩ | ⟨-, ⟨why, impossible⟩, -⟩
  · exact Shelf.get?_of_fetch carried
  · cases impossible

/-- Reading a source leaves every object as it was. -/
theorem Source.Reads.sameObjects {source : Source} {r : Except Failure Document}
    (read : source.Reads P.Answers ns c t r c') : c.SameObjects c' :=
  sameObjects_of_asks ((source.layer?_asks ns).mono fun _ => Query.Reading.readOnly) read.yields

/-- Reading some sources leaves every object as it was. -/
theorem ReadsLayers.sameObjects {layers : List Document}
    (read : ReadsLayers P.Answers ns sources c t layers c') : c.SameObjects c' := by
  induction read with
  | done => exact .refl _
  | next read _ ih => exact read.sameObjects.trans ih

/-! ### Registering -/

/-- The secret with a client in its data, and otherwise unchanged. -/
def Secret.withClient (secret : Secret) (client : String × String) : Secret :=
  { secret with
    data := some (((secret.data.getD ∅).insert clientIdKey (Bytes.ofText client.1)).insert
      clientSecretKey (Bytes.ofText client.2)) }

/-- Writing over a secret puts the new one in its place, or changes nothing. -/
theorem Platform.answers_replaceSecret {object : Secret} {answer : Except StoreError Secret}
    (answered : P.Answers (.replaceSecret ns object) c answer c') :
    (∃ why, answer = .error why) ∧ c.SameObjects c' ∨
      (∃ written, answer = .ok written) ∧
        c' = { c with secrets := c.secrets.insert ⟨ns, object.metadata.nameText⟩ object } := by
  rcases answered with ⟨shelf, settled, rfl⟩ | ⟨-, refused, n, rfl⟩
  · unfold Shelf.Settles Shelf.overwrite at settled
    split at settled
    · next changed overwritten =>
      obtain ⟨rfl, rfl⟩ := settled
      split at overwritten
      · cases overwritten
        exact Or.inr ⟨⟨_, rfl⟩, rfl⟩
      · cases overwritten
    · next why overwritten =>
      obtain ⟨rfl, rfl⟩ := settled
      exact Or.inl ⟨⟨why, rfl⟩, .refl c⟩
  · exact Or.inl ⟨refused, n, rfl⟩

/-- A registration writes its secret as its last step.  Where it fails, or finds a client, nothing
is written. -/
theorem Registration.ensureClient_settles {r : Registration}
    {outcome : Except Failure ProvisionOutcome}
    (run : (r.ensureClient ns).run.Yields P.Answers c t outcome c')
    (kept : c.secrets.WellKept Secret.metadata) :
    c.SameObjects c' ∨
      ∃ secret client, outcome = .ok (.registered client.1) ∧
        c.secrets.get? ⟨ns, r.secretName⟩ = some secret ∧
        Cluster.SameObjects
          { c with secrets := c.secrets.insert ⟨ns, r.secretName⟩ (secret.withClient client) }
          c' := by
  have reading : (Query.getSecret ns r.secretName).ReadOnly := trivial
  have led := run.leads
  cases ensureClient_provisions run with
  | unread => exact Or.inl (led.sameObjects (by simp [Query.ReadOnly]))
  | found => exact Or.inl (led.sameObjects (by simp [Query.ReadOnly]))
  | failed =>
    refine Or.inl (led.sameObjects fun x mem => ?_)
    rcases List.mem_cons.mp mem with rfl | mem
    · trivial
    · exact Conversation.readOnly _ x mem
  | @unwritten secret talk client why =>
    obtain ⟨_, read, led⟩ := led
    obtain ⟨_, talked, _, writing, rfl⟩ := Transcript.Leads.append.mp led
    have same := (reading.sameObjects read).trans (talked.sameObjects talk.readOnly)
    rcases Platform.answers_replaceSecret writing with ⟨-, unchanged⟩ | ⟨⟨_, impossible⟩, -⟩
    · exact Or.inl (same.trans unchanged)
    · cases impossible
  | @written secret stored talk client =>
    obtain ⟨_, read, led⟩ := led
    obtain ⟨_, talked, _, writing, _, counting, rfl⟩ := Transcript.Leads.append.mp led
    obtain rfl := Platform.answers_measure counting
    have found := Platform.answers_getSecret read
    have named : (secretWithClient secret client).metadata.nameText = r.secretName :=
      kept _ _ found
    obtain ⟨n, rfl⟩ := (reading.sameObjects read).trans (talked.sameObjects talk.readOnly)
    rcases Platform.answers_replaceSecret writing with ⟨⟨_, impossible⟩, -⟩ | ⟨-, rfl⟩
    · cases impossible
    · rw [named]
      exact Or.inr ⟨secret, client, rfl, found, n, rfl⟩

/-! ### Resolving -/

/-- A list with several registrations is refused before anything is asked. -/
theorem resolveAll_of_several (several : 1 < (sources.filterMap Source.registration?).length)
    {r : Except Failure Document} (run : (resolveAll ns sources).run.Yields P.Answers c t r c') :
    r = .error (.validation
        (.severalRegistrations (sources.filterMap Source.registration?).length)) ∧
      t = [] ∧ c' = c := by
  have refused : Source.validate sources = .error (.validation
      (.severalRegistrations (sources.filterMap Source.registration?).length)) := if_pos several
  unfold resolveAll at run
  rw [refused] at run
  rcases Attempt.yields_bind.mp run with ⟨e, rfl, rfl, same, rfl⟩ | ⟨_, _, _, _, ⟨-, same, -⟩, -⟩
  · cases same
    exact ⟨rfl, rfl, rfl⟩
  · cases same

/-- A list with at most one registration leaves every object as it was, or puts a client into the
secret of its registration and succeeds. -/
theorem ResolvesInOrder.settles (kept : c.secrets.WellKept Secret.metadata)
    {r : Except Failure Document} (resolves : ResolvesInOrder P.Answers ns sources c t r c') :
    c.SameObjects c' ∨
      (∃ document, r = .ok document) ∧ ∃ registration secret client,
        registrationOf? sources = some registration ∧
        c.secrets.get? ⟨ns, registration.secretName⟩ = some secret ∧
        Cluster.SameObjects
          { c with secrets :=
              c.secrets.insert ⟨ns, registration.secretName⟩ (secret.withClient client) } c' := by
  cases resolves with
  | unread split read failed => exact Or.inl (read.sameObjects.trans failed.sameObjects)
  | plain none read => exact Or.inl read.sameObjects
  | unregistered one read failed =>
    obtain ⟨n, rfl⟩ := read.sameObjects
    rcases Registration.ensureClient_settles failed kept with same | ⟨_, _, impossible, -⟩
    · exact Or.inl (Cluster.SameObjects.trans ⟨n, rfl⟩ same)
    · cases impossible
  | @registered registration _ _ _ _ _ _ one read ensured =>
    obtain ⟨n, rfl⟩ := read.sameObjects
    rcases Registration.ensureClient_settles ensured kept with
      same | ⟨secret, client, -, stored, same⟩
    · exact Or.inl (Cluster.SameObjects.trans ⟨n, rfl⟩ same)
    · have given : registrationOf? sources = some registration := by
        unfold registrationOf?
        rw [one]
        rfl
      exact Or.inr ⟨⟨_, rfl⟩, registration, secret, client, given, stored,
        Cluster.SameObjects.trans ⟨n, rfl⟩ same⟩

/-- **A resolution is all or nothing.**  Whatever is refused and whatever the network answers, a
resolution that fails leaves every object as it was.  One that succeeds does so too, or has put a
client into the data of its registration's secret and has changed nothing else.  A list with several
registrations is refused, and all that is asked is that this be counted. -/
theorem resolve_allOrNothing (kept : c.secrets.WellKept Secret.metadata)
    {r : Except Failure Document} (run : (resolve ns sources).run.Yields P.Answers c t r c') :
    (∀ e, r = .error e → c.SameObjects c') ∧
    (∀ document, r = .ok document → c.SameObjects c' ∨ ∃ registration secret client,
      registrationOf? sources = some registration ∧
      c.secrets.get? ⟨ns, registration.secretName⟩ = some secret ∧
      Cluster.SameObjects
        { c with secrets :=
            c.secrets.insert ⟨ns, registration.secretName⟩ (secret.withClient client) } c') ∧
    (1 < (sources.filterMap Source.registration?).length →
      r = .error (.validation
        (.severalRegistrations (sources.filterMap Source.registration?).length)) ∧
      t = [⟨.measure (.resolution (resolutionLabel r)), ()⟩]) := by
  obtain ⟨asked, mid, resolving, counted, rfl⟩ := resolve_yields_iff.mp run
  obtain rfl := Platform.answers_measure counted
  rcases Nat.lt_or_ge 1 (sources.filterMap Source.registration?).length with several | single
  · obtain ⟨rfl, rfl, rfl⟩ := resolveAll_of_several several resolving
    refine ⟨fun _ _ => .refl _, fun document impossible => ?_, fun _ => ⟨rfl, rfl⟩⟩
    cases impossible
  · refine ⟨?_, ?_, fun several => absurd several (Nat.not_lt.mpr single)⟩
    · rintro e rfl
      rcases ((resolveAll_yields_iff single).mp resolving).settles kept with
        same | ⟨⟨_, impossible⟩, -⟩
      · exact same
      · cases impossible
    · rintro document rfl
      rcases ((resolveAll_yields_iff single).mp resolving).settles kept with same | ⟨-, written⟩
      · exact Or.inl same
      · exact Or.inr written

/-- A world with a provider that registers clients, and with a secret that cannot be written. -/
def worldWithProvider : World where
  cluster :=
    { secrets := Dict.ofList [(⟨"apps", "client"⟩, ⟨{ name := some "client" }, none, none⟩)] }
  failing := ["replace_secret"]
  routes := Dict.ofList
    [("https://idp/config", ⟨200, "\x7b\"registration_endpoint\":\"https://idp/clients\"\x7d"⟩),
      ("https://idp/clients", ⟨201, "\x7b\"client_id\":\"a\",\"client_secret\":\"b\"\x7d"⟩)]

/-- The call whose refusal made an attempt fail, if that is how it ended. -/
def refusal? {α : Type} : Except Failure α → Option StoreError
  | .error (.persistence cause) => some cause
  | _ => none

theorem refusal?_eq_some_iff {α : Type} {result : Except Failure α} {cause : StoreError} :
    refusal? result = some cause ↔ result = .error (.persistence cause) := by
  constructor
  · intro refused
    unfold refusal? at refused
    split at refused
    · cases refused
      rfl
    · cases refused
  · rintro rfl
    rfl

/-- A client that has been registered and cannot be kept leaves no trace in the cluster. -/
theorem worldWithProvider_allOrNothing :
    ∃ t cause c', (resolve "apps" [.registration sampleRegistration]).run.Yields
        worldWithProvider.platform.Answers worldWithProvider.cluster t
        (.error (.persistence cause)) c' ∧
      worldWithProvider.cluster.secrets.WellKept Secret.metadata ∧
      worldWithProvider.cluster.SameObjects c' := by
  have kept : worldWithProvider.cluster.secrets.WellKept Secret.metadata := by
    intro key secret found
    obtain ⟨rfl, rfl⟩ : key = ⟨"apps", "client"⟩ ∧
        (⟨{ name := some "client" }, none, none⟩ : Secret) = secret := by
      simpa [worldWithProvider, Dict.ofList_eq_insertAll, Dict.get?_insert] using found
    rfl
  obtain ⟨t, run⟩ :=
    worldWithProvider.perform_yields (resolve "apps" [.registration sampleRegistration]).run
  have unkept : (refusal? (worldWithProvider.perform
      (resolve "apps" [.registration sampleRegistration]).run).1).isSome = true := by
    decide +kernel
  obtain ⟨cause, refused⟩ := Option.isSome_iff_exists.mp unkept
  rw [refusal?_eq_some_iff.mp refused] at run
  exact ⟨t, cause, _, run, kept, (resolve_allOrNothing kept run).1 _ rfl⟩

end GatewayOperator
