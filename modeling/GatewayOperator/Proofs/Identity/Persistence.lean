import GatewayOperator.Proofs.Provisioning

/-!
# A client is kept only once

Registrations for one secret follow one another.  As long as no one else writes that secret, at most
one of them puts a client into it, and those after it find the client and send nothing.

## Main Definitions

* `Platform.Shared` — a cluster in which others leave one secret alone.
* `ProvisionCall` — what was asked and answered in a call, and what came of it.
* `ProvisionHistory` — the calls for one secret, one after another.

## Main Statements

* `ProvisionHistory.keepsOnce` — at most one client is kept, and later calls only read the secret.

## Design Notes

The secret that is written is the one that was read with a client in it, so whoever reads it
afterwards finds a client: the names and passwords of clients are texts that are not empty, and the
bytes of a data entry go before a text of the same key.
-/

namespace GatewayOperator

variable {P : Platform} {key : ObjectKey} {c c' : Cluster} {t : Transcript}

/-! ### A shared cluster -/

/-- A cluster that is shared with others.  Along with each call they may change everything but one
secret. -/
def Platform.Shared (P : Platform) (key : ObjectKey) : Responder Cluster := fun q c answer c' =>
  ∃ mid, P.Answers q c answer mid ∧ c'.secrets.get? key = mid.secrets.get? key

namespace Platform.Shared

/-- A question that only reads leaves the secret as it was. -/
theorem get?_of_readOnly {q : Query} {answer : q.Answer} (readOnly : q.ReadOnly)
    (answered : P.Shared key q c answer c') : c'.secrets.get? key = c.secrets.get? key := by
  obtain ⟨mid, answered, same⟩ := answered
  obtain ⟨n, rfl⟩ := readOnly.sameObjects answered
  exact same

/-- The secret that is read is the one that is there. -/
theorem get?_of_getSecret {secret : Secret}
    (answered : P.Shared key (.getSecret key.namespace_ key.name) c (.ok secret) c') :
    c.secrets.get? key = some secret := by
  obtain ⟨mid, answered, -⟩ := answered
  exact Platform.answers_getSecret answered

/-- Writing over the secret is refused, or puts another one in its place. -/
theorem get?_of_replaceSecret {object : Secret} {answer : Except StoreError Secret}
    (named : object.metadata.nameText = key.name)
    (answered : P.Shared key (.replaceSecret key.namespace_ object) c answer c') :
    (∃ why, answer = .error why) ∧ c'.secrets.get? key = c.secrets.get? key ∨
      (∃ written, answer = .ok written) ∧ c'.secrets.get? key = some object := by
  obtain ⟨mid, answered, same⟩ := answered
  rcases Platform.answers_replaceSecret answered with ⟨refused, n, rfl⟩ | ⟨written, rfl⟩
  · exact Or.inl ⟨refused, same⟩
  · refine Or.inr ⟨written, same.trans ?_⟩
    rw [named]
    exact Dict.get?_insert_self _ _ _

/-- So does a transcript that only reads. -/
theorem get?_of_leads (led : t.Leads (P.Shared key) c c')
    (reading : ∀ x ∈ t, x.query.ReadOnly) : c'.secrets.get? key = c.secrets.get? key :=
  led.relates (fun c c' : Cluster => c'.secrets.get? key = c.secrets.get? key) (fun _ => rfl)
    (fun first second => second.trans first)
    (fun _ readOnly _ _ _ answered => get?_of_readOnly readOnly answered) reading

end Platform.Shared

/-! ### Calls, one after another -/

/-- What was asked and answered in a call, and what came of it. -/
structure ProvisionCall where
  /-- What was asked and answered. -/
  transcript : Transcript
  /-- What came of it. -/
  outcome : Except Failure ProvisionOutcome

/-- The secret that was written by a question, if one was. -/
def Answered.writtenSecret? : Answered → Option Secret
  | ⟨.replaceSecret _ object, .ok _⟩ => some object
  | _ => none

namespace ProvisionCall

/-- The secrets that were written in a call. -/
def written (call : ProvisionCall) : List Secret :=
  call.transcript.filterMap Answered.writtenSecret?

/-- A call only asks for the secret, and fails because it cannot be read or finds a client. -/
def Idle (key : ObjectKey) (call : ProvisionCall) : Prop :=
  (∃ why, call.transcript = [⟨.getSecret key.namespace_ key.name, .error why⟩] ∧
    call.outcome = .error (.ofStore why)) ∨
  ∃ secret, call.transcript = [⟨.getSecret key.namespace_ key.name, .ok secret⟩] ∧
    call.outcome = .ok .alreadyRegistered

/-- A call that only asks for the secret writes none. -/
theorem Idle.written_eq_nil {call : ProvisionCall} (idle : call.Idle key) : call.written = [] := by
  unfold written
  rcases idle with ⟨why, asked, -⟩ | ⟨secret, asked, -⟩
  · rw [asked]
    rfl
  · rw [asked]
    rfl

/-- Reading and talking write nothing. -/
theorem filterMap_writtenSecret?_talk {ns name : String} {secret : Except StoreError Secret}
    (talk : Conversation) (rest : Transcript) :
    (⟨.getSecret ns name, secret⟩ :: (talk.transcript ++ rest)).filterMap
      Answered.writtenSecret? = rest.filterMap Answered.writtenSecret? := by
  have silent : talk.transcript.filterMap Answered.writtenSecret? = [] := by
    refine Transcript.filterMap_eq_nil (p := fun q => ∃ request, q = .fetch request) talk.fetches ?_
    rintro q answer ⟨request, rfl⟩
    rfl
  rw [List.filterMap_cons_none rfl, List.filterMap_append, silent, List.nil_append]

end ProvisionCall

/-- The calls of registrations for one secret, one after another, in a cluster that is shared with
others. -/
inductive ProvisionHistory (P : Platform) (key : ObjectKey) (c : Cluster) :
    List ProvisionCall → Cluster → Prop
  /-- There was no call. -/
  | start : ProvisionHistory P key c [] c
  /-- Some registration for the secret is made. -/
  | call {calls : List ProvisionCall} {r : Registration} {t : Transcript}
      {outcome : Except Failure ProvisionOutcome} {mid c' : Cluster}
      (earlier : ProvisionHistory P key c calls mid) (named : r.secretName = key.name)
      (run : (r.ensureClient key.namespace_).run.Yields (P.Shared key) mid t outcome c') :
      ProvisionHistory P key c (calls ++ [⟨t, outcome⟩]) c'

/-! ### One call -/

/-- The secret is stored under its own name. -/
def Cluster.Names (c : Cluster) (key : ObjectKey) : Prop :=
  ∀ secret, c.secrets.get? key = some secret → secret.metadata.nameText = key.name

/-- There is a client in the secret. -/
def Cluster.HasClient (c : Cluster) (key : ObjectKey) : Prop :=
  ∃ secret client, c.secrets.get? key = some secret ∧ secret.HoldsClient client

namespace Registration

variable {r : Registration} {outcome : Except Failure ProvisionOutcome}

/-- A call leaves the secret as it was and writes nothing, or has put a client into it by writing it
once. -/
theorem ensureClient_keeps (named : r.secretName = key.name) (names : c.Names key)
    (run : (r.ensureClient key.namespace_).run.Yields (P.Shared key) c t outcome c') :
    ProvisionCall.written ⟨t, outcome⟩ = [] ∧ c'.secrets.get? key = c.secrets.get? key ∨
      (∃ secret, ProvisionCall.written ⟨t, outcome⟩ = [secret]) ∧ c'.Names key ∧
        c'.HasClient key := by
  have reading : (Query.getSecret key.namespace_ key.name).ReadOnly := trivial
  have led := run.leads
  have ways := ensureClient_provisions run
  rw [ProvisionCall.written]
  cases ways with
  | unread => exact Or.inl ⟨rfl, Platform.Shared.get?_of_leads led (by simp [Query.ReadOnly])⟩
  | found => exact Or.inl ⟨rfl, Platform.Shared.get?_of_leads led (by simp [Query.ReadOnly])⟩
  | @failed secret talk =>
    refine Or.inl ⟨?_, Platform.Shared.get?_of_leads led fun x mem => ?_⟩
    · rw [← List.append_nil talk.transcript]
      exact ProvisionCall.filterMap_writtenSecret?_talk talk []
    rcases List.mem_cons.mp mem with rfl | mem
    · trivial
    · exact talk.readOnly x mem
  | @unwritten secret talk client why =>
    rw [named] at led
    obtain ⟨_, read, led⟩ := led
    obtain ⟨_, talked, _, writing, rfl⟩ := Transcript.Leads.append.mp led
    have found := Platform.Shared.get?_of_getSecret read
    have same := (Platform.Shared.get?_of_leads talked talk.readOnly).trans
      (Platform.Shared.get?_of_readOnly reading read)
    have stays : (secretWithClient secret client).metadata.nameText = key.name :=
      names secret found
    rcases Platform.Shared.get?_of_replaceSecret stays writing with
      ⟨-, unchanged⟩ | ⟨⟨_, impossible⟩, -⟩
    · exact Or.inl ⟨ProvisionCall.filterMap_writtenSecret?_talk talk _, unchanged.trans same⟩
    · cases impossible
  | @written secret stored talk client _ _ given =>
    rw [named] at led
    obtain ⟨_, read, led⟩ := led
    obtain ⟨_, talked, _, writing, _, counting, rfl⟩ := Transcript.Leads.append.mp led
    have found := Platform.Shared.get?_of_getSecret read
    have stays : (secretWithClient secret client).metadata.nameText = key.name :=
      names secret found
    rcases Platform.Shared.get?_of_replaceSecret stays writing with
      ⟨⟨_, impossible⟩, -⟩ | ⟨-, there⟩
    · cases impossible
    · have counted : (Query.measure .registration).ReadOnly := trivial
      rw [← Platform.Shared.get?_of_readOnly counted counting] at there
      refine Or.inr ⟨⟨_, ProvisionCall.filterMap_writtenSecret?_talk talk _⟩, fun _ found' => ?_,
        _, client, there,
        Secret.holdsClient_secretWithClient secret (talk.client?_nonEmpty given)⟩
      rw [there] at found'
      cases found'
      exact stays

/-- Where there is a client, a call is idle. -/
theorem ensureClient_idle (named : r.secretName = key.name) (client : c.HasClient key)
    (run : (r.ensureClient key.namespace_).run.Yields (P.Shared key) c t outcome c') :
    ProvisionCall.Idle key ⟨t, outcome⟩ := by
  obtain ⟨there, client, stored, holds⟩ := client
  have led := run.leads
  have ways := ensureClient_provisions run
  -- What is read is the secret with the client in it.
  have reads {secret : Secret} {mid : Cluster}
      (read : P.Shared key (.getSecret key.namespace_ r.secretName) c (.ok secret) mid) :
      secret.HoldsClient client := by
    rw [named] at read
    rw [Platform.Shared.get?_of_getSecret read] at stored
    cases stored
    exact holds
  cases ways with
  | @unread why => exact Or.inl ⟨why, by rw [named], rfl⟩
  | @found secret => exact Or.inr ⟨secret, by rw [named], rfl⟩
  | failed unregistered =>
    obtain ⟨_, read, -⟩ := led
    exact absurd (reads read) (unregistered client)
  | unwritten unregistered =>
    obtain ⟨_, read, -⟩ := led
    exact absurd (reads read) (unregistered client)
  | written unregistered =>
    obtain ⟨_, read, -⟩ := led
    exact absurd (reads read) (unregistered client)

end Registration

/-! ### Many calls -/

namespace ProvisionHistory

variable {calls : List ProvisionCall}

/-- Nothing has been written, or one call has put a client into the secret and those after it were
idle. -/
theorem keeps (names : c.Names key) (history : ProvisionHistory P key c calls c') :
    c'.Names key ∧ ((∀ call ∈ calls, call.written = []) ∨
      c'.HasClient key ∧ ∃ before call after secret, calls = before ++ call :: after ∧
        (∀ earlier ∈ before, earlier.written = []) ∧ call.written = [secret] ∧
        ∀ later ∈ after, later.Idle key) := by
  induction history with
  | start => exact ⟨names, Or.inl (by simp)⟩
  | @call calls r t outcome mid c' earlier named run ih =>
    obtain ⟨names, unwritten | ⟨client, before, call, after, secret, rfl, first, once, idle⟩⟩ := ih
    · -- Nothing was written before this call.
      rcases Registration.ensureClient_keeps named names run with
        ⟨none, same⟩ | ⟨⟨secret, once⟩, names', client⟩
      · refine ⟨fun secret found => names secret (same ▸ found), Or.inl fun call mem => ?_⟩
        rcases List.mem_append.mp mem with mem | mem
        · exact unwritten call mem
        · rw [List.mem_singleton.mp mem]
          exact none
      · exact ⟨names', Or.inr ⟨client, calls, _, [], secret, rfl, unwritten, once, by simp⟩⟩
    · -- A client is in the secret, so this call finds it.
      have idle' := Registration.ensureClient_idle named client run
      obtain ⟨-, same⟩ | ⟨⟨_, impossible⟩, -⟩ := Registration.ensureClient_keeps named names run
      · refine ⟨fun secret found => names secret (same ▸ found), Or.inr ⟨?_, before, call,
          after ++ [⟨t, outcome⟩], secret, by simp, first, once, fun later mem => ?_⟩⟩
        · obtain ⟨secret, client, there, holds⟩ := client
          exact ⟨secret, client, same.trans there, holds⟩
        · rcases List.mem_append.mp mem with mem | mem
          · exact idle later mem
          · rw [List.mem_singleton.mp mem]
            exact idle'
      · rw [idle'.written_eq_nil] at impossible
        cases impossible

/-- **A client is kept at most once.**  However many registrations for a secret follow one another,
whatever is refused and whatever is answered: as long as no one else writes the secret, it is
written at most once, and from then on every call asks for nothing but the secret and fails because
it cannot be read, or finds a client. -/
theorem keepsOnce (names : c.Names key) (history : ProvisionHistory P key c calls c') :
    (calls.flatMap ProvisionCall.written).length ≤ 1 ∧
      ∀ before call after, calls = before ++ call :: after → call.written ≠ [] →
        ∀ later ∈ after, later.Idle key := by
  obtain ⟨-, unwritten | ⟨-, before, call, after, secret, rfl, first, once, idle⟩⟩ :=
    history.keeps names
  · constructor
    · rw [List.flatMap_eq_nil_iff.mpr unwritten]
      exact Nat.zero_le 1
    · rintro before call after rfl writes
      exact absurd (unwritten call (by simp)) writes
  · constructor
    · rw [List.flatMap_append, List.flatMap_cons, List.flatMap_eq_nil_iff.mpr first,
        List.flatMap_eq_nil_iff.mpr fun later mem => (idle later mem).written_eq_nil, once]
      exact Nat.le_refl 1
    · -- What writes comes no earlier than the call that wrote.
      intro before' call' after' same writes later mem
      obtain ⟨between, -, follows⟩ :=
        exists_eq_append_of_notMem same fun earlier => writes (first call' earlier)
      cases between with
      | nil =>
        obtain ⟨-, rfl⟩ := List.cons.inj follows
        exact idle later mem
      | cons x between =>
        obtain ⟨-, rfl⟩ := List.cons.inj follows
        exact idle later (by simp [mem])

/-- Registering a client in a world is one more call. -/
theorem perform {first w : World} {r : Registration} (network : first.SameNetwork w)
    (earlier : ProvisionHistory first.platform key c calls w.cluster)
    (named : r.secretName = key.name) :
    ProvisionHistory first.platform key c
      (calls ++ [⟨w.transcript (r.ensureClient key.namespace_).run,
        (w.perform (r.ensureClient key.namespace_).run).1⟩])
      (w.perform (r.ensureClient key.namespace_).run).2.cluster := by
  have run := w.yields_transcript (r.ensureClient key.namespace_).run
  rw [World.platform_eq network] at run
  exact .call earlier named (run.mono fun _ _ _ mid answered => ⟨mid, answered, rfl⟩)

end ProvisionHistory

/-- Of two registrations for one secret the first one registers a client, and the second one finds
it. -/
theorem worldWithTokens_keepsOnce :
    ∃ calls c', ProvisionHistory worldWithTokens.platform ⟨"apps", "client"⟩
        worldWithTokens.cluster calls c' ∧
      worldWithTokens.cluster.Names ⟨"apps", "client"⟩ ∧
      calls.map (·.outcome.toOption) = [some (.registered "a"), some .alreadyRegistered] ∧
      (calls.flatMap ProvisionCall.written).length ≤ 1 := by
  have names : worldWithTokens.cluster.Names ⟨"apps", "client"⟩ := by
    intro secret found
    cases found
    rfl
  have before : ProvisionHistory worldWithTokens.platform ⟨"apps", "client"⟩
      worldWithTokens.cluster [] worldWithTokens.cluster := .start
  have first := before.perform (r := sampleRegistration) ⟨rfl, rfl, rfl⟩ rfl
  have second := first.perform (r := sampleRegistration)
    (worldWithTokens.sameNetwork_perform _) rfl
  exact ⟨_, _, second, names, by decide +kernel, (second.keepsOnce names).1⟩

end GatewayOperator
