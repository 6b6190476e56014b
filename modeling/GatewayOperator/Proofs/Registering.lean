import GatewayOperator.Proofs.Keeping
import GatewayOperator.Proofs.Identity.Protocol

/-!
# Registering a client only once

A registration that has succeeded has put a client into its secret, and one that finds a client
there does nothing.

## Main Definitions

* `Registration.Registered` — the secret of a registration holds a client.

## Main Statements

* `Registration.ensureClient_registers` — a registration that succeeds leaves a client behind.
* `resolve_registers` — so does resolving a configuration that contains the registration.
* `resolve_of_registered` — where there is a client, resolving only reads.
-/

namespace GatewayOperator

variable {P : Platform} {ns : String} {c c' : Cluster} {t : Transcript}

/-- Requests leave a cluster as it is. -/
theorem Transcript.Leads.eq_of_fetching (led : t.Leads P.Answers c c')
    (fetching : ∀ x ∈ t, ∃ request, x.query = .fetch request) : c' = c := by
  refine led.relates (p := fun q => ∃ request, q = .fetch request) (fun c c' => c' = c)
    (fun _ => rfl) (fun first second => second.trans first) ?_ fetching
  rintro q ⟨request, rfl⟩ s answer s' (⟨-, rfl⟩ | ⟨-, impossible, -⟩)
  · rfl
  · exact impossible.elim

namespace Registration

variable {r : Registration}

/-- The secret of a registration holds a client. -/
def Registered (r : Registration) (ns : String) (c : Cluster) : Prop :=
  ∃ secret, c.secrets.get? ⟨ns, r.secretName⟩ = some secret ∧
    (Credential.ofSecret r.secretName secret).isRegistered = true

/-- A registration that succeeds leaves a client behind. -/
theorem ensureClient_registers (reliable : P.Reliable) (kept : c.WellKept)
    {outcome : ProvisionOutcome}
    (run : (r.ensureClient ns).run.Yields P.Answers c t (.ok outcome) c') :
    r.Registered ns c' := by
  have led := run.leads
  cases ensureClient_provisions run with
  | @found secret client holds =>
    obtain ⟨_, read, rfl⟩ := led
    obtain ⟨found, rfl⟩ := reliable.carried read
    exact ⟨secret, Shelf.get?_of_fetch found, Credential.isRegistered_iff.mpr ⟨client, holds⟩⟩
  | @written secret stored talk client _ _ given =>
    obtain ⟨_, read, led⟩ := led
    obtain ⟨found, rfl⟩ := reliable.carried read
    obtain ⟨_, talked, _, writing, _, counting, rfl⟩ := Transcript.Leads.append.mp led
    obtain rfl := talked.eq_of_fetching talk.fetches
    obtain rfl := Platform.answers_measure counting
    obtain ⟨shelf, settled, rfl⟩ := reliable.carried writing
    -- The secret is written over where it was found, so the client is found there.
    have named : (secretWithClient secret client).metadata.nameText = r.secretName :=
      kept.secrets _ _ (Shelf.get?_of_fetch found)
    refine ⟨secretWithClient secret client, ?_, Credential.isRegistered_iff.mpr
      ⟨client, Secret.holdsClient_secretWithClient secret (talk.client?_nonEmpty given)⟩⟩
    unfold Shelf.Settles Shelf.overwrite at settled
    split at settled
    · next changed overwritten =>
      split at overwritten
      · cases overwritten
        obtain ⟨-, rfl⟩ := settled
        rw [named]
        exact Dict.get?_insert_self _ _ _
      · cases overwritten
    · cases settled.1

/-- Where there is a client, a registration only reads. -/
theorem ensureClient_of_registered (reliable : P.Reliable) (registered : r.Registered ns c)
    {outcome : Except Failure ProvisionOutcome}
    (run : (r.ensureClient ns).run.Yields P.Answers c t outcome c') :
    c' = c ∧ ∀ x ∈ t, x.query.ReadOnly := by
  obtain ⟨there, stored, registered⟩ := registered
  obtain ⟨client, holds⟩ := Credential.isRegistered_iff.mp registered
  -- What is read is the secret with the client in it.
  have reads {secret : Secret} {mid : Cluster}
      (read : P.Answers (.getSecret ns r.secretName) c (.ok secret) mid) :
      secret.HoldsClient client := by
    obtain ⟨found, -⟩ := reliable.carried read
    rw [Shelf.get?_of_fetch found] at stored
    cases stored
    exact holds
  have led := run.leads
  cases ensureClient_provisions run with
  | unread =>
    obtain ⟨_, read, rfl⟩ := led
    exact ⟨(reliable.carried read).2, by simp [Query.ReadOnly]⟩
  | found =>
    obtain ⟨_, read, rfl⟩ := led
    exact ⟨(reliable.carried read).2, by simp [Query.ReadOnly]⟩
  | failed unregistered =>
    obtain ⟨_, read, -⟩ := led
    exact absurd (reads read) (unregistered client)
  | unwritten unregistered =>
    obtain ⟨_, read, -⟩ := led
    exact absurd (reads read) (unregistered client)
  | written unregistered =>
    obtain ⟨_, read, -⟩ := led
    exact absurd (reads read) (unregistered client)

end Registration

/-! ### Resolving -/

variable {sources : List Source}

/-- A program that only reads config maps and secrets leaves a reliable cluster as it is. -/
theorem Platform.Reliable.eq_of_reading (reliable : P.Reliable) {α : Type} {program : Program α}
    {a : α} (reading : program.Asks Query.Reading)
    (run : program.Yields P.Answers c t a c') : c' = c := by
  refine run.relates (fun c c' => c' = c) (fun _ => rfl)
    (fun first second => second.trans first) ?_ reading
  intro q h s answer s' answered
  have carried := reliable.carried answered
  cases q with
  | getConfigMap | getSecret | fetch => exact carried.2
  | _ => exact h.elim

/-- Resolving a configuration reads its layers and then sees to its registration. -/
theorem resolve_parts {r : Except Failure Document}
    (run : (resolve ns sources).run.Yields P.Answers c t r c') :
    ∃ read last, (∀ x ∈ read, x.query.Reading) ∧ last.query.ReadOnly ∧
      (P.Reliable → ((∃ e, r = .error e) ∧ t = read ++ [last] ∧ c' = c) ∨
        ∃ document rest, (resolveIdentity ns (registrationOf? sources) document).run.Yields
          P.Answers c rest r c' ∧ t = read ++ (rest ++ [last])) := by
  unfold resolve at run
  obtain ⟨result, c₁, before, after, resolving, counting, rfl⟩ := Program.yields_bind.mp run
  obtain ⟨_, c₂, _, _, asked, ⟨rfl, rfl, rfl⟩, rfl⟩ := Program.yields_bind.mp counting
  obtain ⟨answered, rfl⟩ := Program.yields_query.mp asked
  obtain rfl := Platform.answers_measure answered
  -- The result is counted last, whatever it is.
  unfold resolveAll at resolving
  rcases Attempt.yields_bind.mp resolving with
    ⟨e, rfl, rfl, -, rfl⟩ | ⟨_, c₃, _, _, ⟨rfl, -, rfl⟩, run₁, rfl⟩
  · exact ⟨[], ⟨.measure (.resolution (resolutionLabel (.error e))), ()⟩, by simp, trivial,
      fun _ => Or.inl ⟨⟨e, rfl⟩, rfl, rfl⟩⟩
  rcases Attempt.yields_bind.mp run₁ with ⟨e, rfl, failed⟩ | ⟨document, c₄, _, _, read, run₂, rfl⟩
  · refine ⟨_, ⟨.measure (.resolution (resolutionLabel (.error e))), ()⟩,
      failed.asked (resolveLayers_asks ns sources .empty), trivial, ?_⟩
    exact fun reliable => Or.inl ⟨⟨e, rfl⟩, rfl,
      reliable.eq_of_reading (resolveLayers_asks ns sources .empty) failed⟩
  · refine ⟨_, ⟨.measure (.resolution (resolutionLabel r)), ()⟩,
      read.asked (resolveLayers_asks ns sources .empty), trivial, ?_⟩
    intro reliable
    obtain rfl := reliable.eq_of_reading (resolveLayers_asks ns sources .empty) read
    exact Or.inr ⟨document, _, run₂, List.append_assoc _ _ _⟩

/-- Resolving a configuration leaves a client behind for its registration. -/
theorem resolve_registers (reliable : P.Reliable) (kept : c.WellKept) {document : Document}
    (run : (resolve ns sources).run.Yields P.Answers c t (.ok document) c') :
    ∀ r ∈ registrationOf? sources, r.Registered ns c' := by
  intro r given
  obtain ⟨read, last, -, -, parts⟩ := resolve_parts run
  rcases parts reliable with ⟨⟨e, impossible⟩, -⟩ | ⟨merged, rest, identity, -⟩
  · cases impossible
  rw [Option.mem_def.mp given] at identity
  rcases Attempt.yields_bind.mp identity with
    ⟨e, impossible, -⟩ | ⟨outcome, _, _, _, ensured, ⟨-, -, rfl⟩, -⟩
  · cases impossible
  · exact Registration.ensureClient_registers reliable kept ensured

/-- Where there is a client for its registration, resolving a configuration only reads. -/
theorem resolve_of_registered (reliable : P.Reliable)
    (registered : ∀ r ∈ registrationOf? sources, r.Registered ns c)
    {r : Except Failure Document}
    (run : (resolve ns sources).run.Yields P.Answers c t r c') :
    c' = c ∧ ∀ x ∈ t, x.query.ReadOnly := by
  obtain ⟨read, last, reading, counting, parts⟩ := resolve_parts run
  rcases parts reliable with ⟨-, rfl, rfl⟩ | ⟨merged, rest, identity, rfl⟩
  · refine ⟨rfl, fun x mem => ?_⟩
    rcases List.mem_append.mp mem with mem | mem
    · exact (reading x mem).readOnly
    · rw [List.mem_singleton.mp mem]
      exact counting
  · have ensured : c' = c ∧ ∀ x ∈ rest, x.query.ReadOnly := by
      cases given : registrationOf? sources with
      | none =>
        rw [given] at identity
        obtain ⟨rfl, -, rfl⟩ := identity
        exact ⟨rfl, by simp⟩
      | some registration =>
        rw [given] at identity
        have there := registered registration (Option.mem_def.mpr given)
        rcases Attempt.yields_bind.mp identity with
          ⟨e, -, ensured⟩ | ⟨outcome, _, _, _, ensured, ⟨rfl, -, rfl⟩, rfl⟩
        · exact Registration.ensureClient_of_registered reliable there ensured
        · rw [List.append_nil]
          exact Registration.ensureClient_of_registered reliable there ensured
    refine ⟨ensured.1, fun x mem => ?_⟩
    rcases List.mem_append.mp mem with mem | mem
    · exact (reading x mem).readOnly
    rcases List.mem_append.mp mem with mem | mem
    · exact ensured.2 x mem
    · rw [List.mem_singleton.mp mem]
      exact counting

end GatewayOperator
