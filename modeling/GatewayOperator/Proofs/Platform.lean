import GatewayOperator.Cluster
import GatewayOperator.Proofs.Runs

/-!
# Clusters that may refuse

A cluster carries out a call or refuses it, the network answers as it likes, and a new object
without a name gets one that is free.  Which calls are sure to be carried out is a parameter, so
one relation describes a cluster that never fails as well as one that fails at will.

## Main Definitions

* `Shelf.Creates`, `Shelf.Settles` — what becomes of the objects of one kind.
* `CarriesOut` — the answers to a question that is carried out.
* `Platform`, `Platform.Answers` — the answers of a cluster in its network.
* `Platform.AnswersTruly` — those of a cluster that never denies a config map that it has.
* `Transcript.madeServices`, `Transcript.madeConfigMaps` — what was made in a run.

## Main Statements

* `Platform.answers_createService`, `Platform.answers_deleteService` and their counterparts
  for config maps — what follows from an answer to a call.
* `Platform.total` — no question is left without an answer.

## Design Notes

A refused call leaves every object as it was.  How many names a cluster has given is its own
business: a refused call may have used one up.
-/

namespace GatewayOperator

/-- The metadata of an object that stands under a name in a namespace. -/
def Metadata.placed (metadata : Metadata) (namespace_ name : String) : Metadata :=
  { metadata with name := some name, namespace_ := some namespace_ }

@[simp] theorem Metadata.nameText_placed (metadata : Metadata) (namespace_ name : String) :
    (metadata.placed namespace_ name).nameText = name := rfl

namespace Shelf

variable {α β : Type}

/-- A new object gets its own name, or one that is free and not empty if it has none; it is refused
where its name is taken. -/
def Creates (shelf : Shelf α) (namespace_ : String) (metadata : Metadata) (make : Metadata → α)
    (answer : Except StoreError α) (shelf' : Shelf α) : Prop :=
  (∃ name, (metadata.name = some name ∨ metadata.name = none ∧ name ≠ "") ∧
    shelf.get? ⟨namespace_, name⟩ = none ∧
    answer = .ok (make (metadata.placed namespace_ name)) ∧
    shelf' = shelf.insert ⟨namespace_, name⟩ (make (metadata.placed namespace_ name))) ∨
  ∃ name why, metadata.name = some name ∧ shelf.contains ⟨namespace_, name⟩ = true ∧
    answer = .error why ∧ shelf' = shelf

/-- A change is answered with a value if it succeeds, and leaves everything as it was if not. -/
def Settles (shelf : Shelf α) (change : Except StoreError (Shelf α)) (value : β)
    (answer : Except StoreError β) (shelf' : Shelf α) : Prop :=
  match change with
  | .ok changed => answer = .ok value ∧ shelf' = changed
  | .error why => answer = .error why ∧ shelf' = shelf

/-- A new object without a name gets one that is free. -/
theorem Creates.of_unnamed {shelf shelf' : Shelf α} {namespace_ : String} {metadata : Metadata}
    {make : Metadata → α} {answer : Except StoreError α} (unnamed : metadata.name = none)
    (h : shelf.Creates namespace_ metadata make answer shelf') :
    ∃ name, name ≠ "" ∧ shelf.get? ⟨namespace_, name⟩ = none ∧
      answer = .ok (make (metadata.placed namespace_ name)) ∧
      shelf' = shelf.insert ⟨namespace_, name⟩ (make (metadata.placed namespace_ name)) := by
  rcases h with ⟨name, named | ⟨-, nonempty⟩, free, answered, stored⟩ | ⟨name, why, named, -⟩
  · rw [unnamed] at named
    cases named
  · exact ⟨name, nonempty, free, answered, stored⟩
  · rw [unnamed] at named
    cases named

/-- An object that is removed is gone; it can be removed where there is one. -/
theorem settles_remove {shelf shelf' : Shelf α} {kind : ObjectKind} {key : ObjectKey}
    {answer : Except StoreError Unit} (h : shelf.Settles (shelf.remove kind key) () answer shelf') :
    (answer = .ok () ∧ shelf' = shelf.erase key) ∨
      (∃ why, answer = .error why) ∧ shelf.get? key = none ∧ shelf' = shelf := by
  unfold Settles remove Dict.contains at h
  cases found : shelf.get? key with
  | some object =>
    rw [found] at h
    exact Or.inl h
  | none =>
    rw [found] at h
    exact Or.inr ⟨⟨_, h.1⟩, rfl, h.2⟩

/-- What is read off a shelf stands there. -/
theorem get?_of_fetch {shelf : Shelf α} {kind : ObjectKind} {key : ObjectKey} {object : α}
    (read : .ok object = shelf.fetch kind key) : shelf.get? key = some object := by
  unfold fetch at read
  split at read
  · next found there =>
    cases read
    exact there
  · cases read

/-- What cannot be read off a shelf does not stand there. -/
theorem get?_of_fetch_error {shelf : Shelf α} {kind : ObjectKind} {key : ObjectKey}
    {why : StoreError} (read : .error why = shelf.fetch kind key) : shelf.get? key = none := by
  unfold fetch at read
  split at read
  · cases read
  · next absent => exact absent

end Shelf

/-- The answers to a question that is carried out, and the cluster afterwards. -/
def CarriesOut (network : HttpRequest → Except String HttpResponse → Prop) :
    (q : Query) → Cluster → q.Answer → Cluster → Prop
  | .getConfigMap ns name, c, a, c' => a = c.configMaps.fetch .configMap ⟨ns, name⟩ ∧ c' = c
  | .createConfigMap ns object, c, a, c' => ∃ shelf n,
      c.configMaps.Creates ns object.metadata (fun metadata => { object with metadata }) a shelf ∧
        c' = { c with configMaps := shelf, namesGiven := n }
  | .replaceConfigMap ns object, c, a, c' => ∃ shelf,
      c.configMaps.Settles
        (c.configMaps.overwrite .configMap ⟨ns, object.metadata.nameText⟩ object) object a shelf ∧
        c' = { c with configMaps := shelf }
  | .deleteConfigMap ns name, c, a, c' => ∃ shelf,
      c.configMaps.Settles (c.configMaps.remove .configMap ⟨ns, name⟩) () a shelf ∧
        c' = { c with configMaps := shelf }
  | .getSecret ns name, c, a, c' => a = c.secrets.fetch .secret ⟨ns, name⟩ ∧ c' = c
  | .replaceSecret ns object, c, a, c' => ∃ shelf,
      c.secrets.Settles
        (c.secrets.overwrite .secret ⟨ns, object.metadata.nameText⟩ object) object a shelf ∧
        c' = { c with secrets := shelf }
  | .createService ns object, c, a, c' => ∃ shelf n,
      c.services.Creates ns object.metadata (fun metadata => { object with metadata }) a shelf ∧
        c' = { c with services := shelf, namesGiven := n }
  | .deleteService ns name, c, a, c' => ∃ shelf,
      c.services.Settles (c.services.remove .service ⟨ns, name⟩) () a shelf ∧
        c' = { c with services := shelf }
  | .getDeployment ns name, c, a, c' => a = c.deployments.fetch .deployment ⟨ns, name⟩ ∧ c' = c
  | .createDeployment ns object, c, a, c' => ∃ shelf n,
      c.deployments.Creates ns object.metadata (fun metadata => { object with metadata }) a shelf ∧
        c' = { c with deployments := shelf, namesGiven := n }
  | .replaceDeployment ns object, c, a, c' => ∃ shelf,
      c.deployments.Settles
        (c.deployments.overwrite .deployment ⟨ns, object.metadata.nameText⟩ object) object a shelf ∧
        c' = { c with deployments := shelf }
  | .patchStatus ns name status, c, a, c' =>
      a = .ok () ∧ c' = { c with statuses := c.statuses.insert ⟨ns, name⟩ status }
  | .fetch request, c, a, c' => network request a ∧ c' = c
  | .now, c, _, c' => c' = c
  | .publish .., c, _, c' => c' = c
  | .measure _, c, _, c' => c' = c

/-- Whether an answer refuses a question; only calls to the cluster can be refused. -/
def Refuses : (q : Query) → q.Answer → Prop
  | .getConfigMap .., a | .createConfigMap .., a | .replaceConfigMap .., a
  | .deleteConfigMap .., a | .getSecret .., a | .replaceSecret .., a | .createService .., a
  | .deleteService .., a | .getDeployment .., a | .createDeployment .., a
  | .replaceDeployment .., a | .patchStatus .., a => ∃ why, a = .error why
  | .fetch _, _ | .now, _ | .publish .., _ | .measure _, _ => False

/-- A cluster in its network: which calls are sure to be carried out, and what the network may
answer. -/
structure Platform where
  /-- The questions that are sure to be carried out. -/
  certain : Query → Prop
  /-- What the network may answer to a request. -/
  network : HttpRequest → Except String HttpResponse → Prop
  /-- The network answers every request, if only with a reason for having no answer. -/
  network_total : ∀ request, ∃ answer, network request answer

/-- The answers to a question: it is carried out, or it is refused and changes no object. -/
def Platform.Answers (P : Platform) (q : Query) (c : Cluster) (answer : q.Answer)
    (c' : Cluster) : Prop :=
  CarriesOut P.network q c answer c' ∨
    ¬P.certain q ∧ Refuses q answer ∧ ∃ n, c' = { c with namesGiven := n }

/-- An answer says that a config map is missing. -/
def SaysMissing : (q : Query) → q.Answer → Prop
  | .getConfigMap .., a => ∃ kind missing, a = .error (.notFound kind missing)
  | _, _ => False

/-- The answers to a question of a cluster that says of no config map that it is missing unless it
is. -/
def Platform.AnswersTruly (P : Platform) (q : Query) (c : Cluster) (answer : q.Answer)
    (c' : Cluster) : Prop :=
  P.Answers q c answer c' ∧ (SaysMissing q answer → CarriesOut P.network q c answer c')

namespace Platform

variable {P : Platform} {c c' : Cluster} {ns name : String}

/-! ### Calls one at a time -/

/-- A service without a name is made under a free name, or nothing is made. -/
theorem answers_createService {object : Service} {answer : Except StoreError Service}
    (unnamed : object.metadata.name = none)
    (h : P.Answers (.createService ns object) c answer c') :
    (∃ name n, name ≠ "" ∧ c.services.get? ⟨ns, name⟩ = none ∧
      answer = .ok { object with metadata := object.metadata.placed ns name } ∧
      c' = { c with
        services := c.services.insert ⟨ns, name⟩
          { object with metadata := object.metadata.placed ns name }
        namesGiven := n }) ∨
    ¬P.certain (.createService ns object) ∧ (∃ why, answer = .error why) ∧
      ∃ n, c' = { c with namesGiven := n } := by
  rcases h with ⟨shelf, n, created, rfl⟩ | refused
  · obtain ⟨name, nonempty, free, rfl, rfl⟩ := created.of_unnamed unnamed
    exact Or.inl ⟨name, n, nonempty, free, rfl, rfl⟩
  · exact Or.inr refused

/-- A config map without a name is made under a free name, or nothing is made. -/
theorem answers_createConfigMap {object : ConfigMap} {answer : Except StoreError ConfigMap}
    (unnamed : object.metadata.name = none)
    (h : P.Answers (.createConfigMap ns object) c answer c') :
    (∃ name n, name ≠ "" ∧ c.configMaps.get? ⟨ns, name⟩ = none ∧
      answer = .ok { object with metadata := object.metadata.placed ns name } ∧
      c' = { c with
        configMaps := c.configMaps.insert ⟨ns, name⟩
          { object with metadata := object.metadata.placed ns name }
        namesGiven := n }) ∨
    ¬P.certain (.createConfigMap ns object) ∧ (∃ why, answer = .error why) ∧
      ∃ n, c' = { c with namesGiven := n } := by
  rcases h with ⟨shelf, n, created, rfl⟩ | refused
  · obtain ⟨name, nonempty, free, rfl, rfl⟩ := created.of_unnamed unnamed
    exact Or.inl ⟨name, n, nonempty, free, rfl, rfl⟩
  · exact Or.inr refused

/-- A service that is removed is gone, and one that cannot be removed stays. -/
theorem answers_deleteService {answer : Except StoreError Unit}
    (h : P.Answers (.deleteService ns name) c answer c') :
    (answer = .ok () ∧ c' = { c with services := c.services.erase ⟨ns, name⟩ }) ∨
    (∃ why, answer = .error why) ∧ (∃ n, c' = { c with namesGiven := n }) ∧
      (P.certain (.deleteService ns name) → c.services.get? ⟨ns, name⟩ = none) := by
  rcases h with ⟨shelf, settled, rfl⟩ | ⟨uncertain, why, n, rfl⟩
  · rcases Shelf.settles_remove settled with ⟨rfl, rfl⟩ | ⟨why, missing, rfl⟩
    · exact Or.inl ⟨rfl, rfl⟩
    · exact Or.inr ⟨why, ⟨c.namesGiven, rfl⟩, fun _ => missing⟩
  · exact Or.inr ⟨why, ⟨n, rfl⟩, fun sure => absurd sure uncertain⟩

/-- A config map that is removed is gone, and one that cannot be removed stays. -/
theorem answers_deleteConfigMap {answer : Except StoreError Unit}
    (h : P.Answers (.deleteConfigMap ns name) c answer c') :
    (answer = .ok () ∧ c' = { c with configMaps := c.configMaps.erase ⟨ns, name⟩ }) ∨
    (∃ why, answer = .error why) ∧ (∃ n, c' = { c with namesGiven := n }) ∧
      (P.certain (.deleteConfigMap ns name) → c.configMaps.get? ⟨ns, name⟩ = none) := by
  rcases h with ⟨shelf, settled, rfl⟩ | ⟨uncertain, why, n, rfl⟩
  · rcases Shelf.settles_remove settled with ⟨rfl, rfl⟩ | ⟨why, missing, rfl⟩
    · exact Or.inl ⟨rfl, rfl⟩
    · exact Or.inr ⟨why, ⟨c.namesGiven, rfl⟩, fun _ => missing⟩
  · exact Or.inr ⟨why, ⟨n, rfl⟩, fun sure => absurd sure uncertain⟩

/-- A question that is no call to the cluster leaves it as it is. -/
theorem answers_now {answer : String} (h : P.Answers .now c answer c') : c' = c := by
  rcases h with rfl | ⟨-, impossible, -⟩
  · rfl
  · exact impossible.elim

theorem answers_measure {m : Measurement} {answer : Unit}
    (h : P.Answers (.measure m) c answer c') : c' = c := by
  rcases h with rfl | ⟨-, impossible, -⟩
  · rfl
  · exact impossible.elim

theorem answers_publish {g : Gateway} {event : Event} {answer : Unit}
    (h : P.Answers (.publish g event) c answer c') : c' = c := by
  rcases h with rfl | ⟨-, impossible, -⟩
  · rfl
  · exact impossible.elim

/-! ### Every question has an answer -/

/-- Some name is not empty and not that of any of finitely many objects. -/
theorem exists_free {α : Type} (shelf : Shelf α) (ns : String) :
    ∃ name, name ≠ "" ∧ shelf.get? ⟨ns, name⟩ = none := by
  -- A name that is longer than all others is free.
  have bound : ∃ n, ∀ entry ∈ shelf.entries, entry.1.name.length < n := by
    induction shelf.entries with
    | nil => exact ⟨0, by simp⟩
    | cons entry rest ih =>
      obtain ⟨n, shorter⟩ := ih
      refine ⟨max n (entry.1.name.length + 1), fun other mem => ?_⟩
      rcases List.mem_cons.mp mem with rfl | mem
      · omega
      · have := shorter other mem
        omega
  obtain ⟨n, shorter⟩ := bound
  have long : (String.ofList (List.replicate (n + 1) 'x')).length = n + 1 := by simp
  refine ⟨String.ofList (List.replicate (n + 1) 'x'), fun empty => ?_, ?_⟩
  · rw [empty] at long
    simp at long
  · refine Assoc.lookup_eq_none_iff.mpr fun entry mem same => ?_
    have name_eq : entry.1.name = String.ofList (List.replicate (n + 1) 'x') :=
      congrArg ObjectKey.name same
    have := shorter entry mem
    rw [name_eq, long] at this
    omega

/-- Every creation can be answered. -/
theorem exists_creates {α : Type} (shelf : Shelf α) (ns : String) (metadata : Metadata)
    (make : Metadata → α) : ∃ answer shelf', shelf.Creates ns metadata make answer shelf' := by
  cases named : metadata.name with
  | none =>
    obtain ⟨name, nonempty, free⟩ := exists_free shelf ns
    exact ⟨_, _, Or.inl ⟨name, Or.inr ⟨named, nonempty⟩, free, rfl, rfl⟩⟩
  | some name =>
    cases free : shelf.get? ⟨ns, name⟩ with
    | none => exact ⟨_, _, Or.inl ⟨name, Or.inl named, free, rfl, rfl⟩⟩
    | some object =>
      refine ⟨.error (.notFound .pod name), shelf, Or.inr ⟨name, _, named, ?_, rfl, rfl⟩⟩
      exact Dict.contains_iff_exists.mpr ⟨object, free⟩

/-- Every change can be answered. -/
theorem exists_settles {α β : Type} (shelf : Shelf α) (change : Except StoreError (Shelf α))
    (value : β) : ∃ answer shelf', shelf.Settles change value answer shelf' := by
  cases change with
  | ok changed => exact ⟨_, _, rfl, rfl⟩
  | error why => exact ⟨_, _, rfl, rfl⟩

/-- No question is left without an answer. -/
theorem total (P : Platform) (q : Query) (c : Cluster) :
    ∃ answer c', P.Answers q c answer c' := by
  -- Every call can be carried out, also one that might be refused.
  cases q with
  | createConfigMap ns object =>
    obtain ⟨answer, shelf, h⟩ := exists_creates c.configMaps ns object.metadata _
    exact ⟨answer, _, Or.inl ⟨shelf, 0, h, rfl⟩⟩
  | createService ns object =>
    obtain ⟨answer, shelf, h⟩ := exists_creates c.services ns object.metadata _
    exact ⟨answer, _, Or.inl ⟨shelf, 0, h, rfl⟩⟩
  | createDeployment ns object =>
    obtain ⟨answer, shelf, h⟩ := exists_creates c.deployments ns object.metadata _
    exact ⟨answer, _, Or.inl ⟨shelf, 0, h, rfl⟩⟩
  | replaceConfigMap ns object =>
    obtain ⟨answer, shelf, h⟩ := exists_settles c.configMaps _ object
    exact ⟨answer, _, Or.inl ⟨shelf, h, rfl⟩⟩
  | replaceSecret ns object =>
    obtain ⟨answer, shelf, h⟩ := exists_settles c.secrets _ object
    exact ⟨answer, _, Or.inl ⟨shelf, h, rfl⟩⟩
  | replaceDeployment ns object =>
    obtain ⟨answer, shelf, h⟩ := exists_settles c.deployments _ object
    exact ⟨answer, _, Or.inl ⟨shelf, h, rfl⟩⟩
  | deleteConfigMap ns name =>
    obtain ⟨answer, shelf, h⟩ := exists_settles c.configMaps _ ()
    exact ⟨answer, _, Or.inl ⟨shelf, h, rfl⟩⟩
  | deleteService ns name =>
    obtain ⟨answer, shelf, h⟩ := exists_settles c.services _ ()
    exact ⟨answer, _, Or.inl ⟨shelf, h, rfl⟩⟩
  | getConfigMap ns name => exact ⟨_, c, Or.inl ⟨rfl, rfl⟩⟩
  | getSecret ns name => exact ⟨_, c, Or.inl ⟨rfl, rfl⟩⟩
  | getDeployment ns name => exact ⟨_, c, Or.inl ⟨rfl, rfl⟩⟩
  | patchStatus ns name status => exact ⟨_, _, Or.inl ⟨rfl, rfl⟩⟩
  | fetch request =>
    obtain ⟨answer, h⟩ := P.network_total request
    exact ⟨answer, c, Or.inl ⟨h, rfl⟩⟩
  | now => exact ⟨"", c, Or.inl rfl⟩
  | publish gateway event => exact ⟨(), c, Or.inl rfl⟩
  | measure m => exact ⟨(), c, Or.inl rfl⟩

end Platform

/-- A platform that carries out every call, in a network that reaches no one. -/
def secludedPlatform : Platform where
  certain _ := True
  network _ answer := answer = .error "unreachable"
  network_total _ := ⟨_, rfl⟩

/-! ### What was made in a run -/

/-- The service that was made by a question, if one was. -/
def Answered.madeService? : Answered → Option ObjectKey
  | ⟨.createService ns _, .ok made⟩ => some ⟨ns, made.metadata.nameText⟩
  | _ => none

/-- The config map that was made by a question, if one was. -/
def Answered.madeConfigMap? : Answered → Option ObjectKey
  | ⟨.createConfigMap ns _, .ok made⟩ => some ⟨ns, made.metadata.nameText⟩
  | _ => none

/-- The services that were made in a run. -/
def Transcript.madeServices (t : Transcript) : List ObjectKey := t.filterMap Answered.madeService?

/-- The config maps that were made in a run. -/
def Transcript.madeConfigMaps (t : Transcript) : List ObjectKey :=
  t.filterMap Answered.madeConfigMap?

namespace Transcript

@[simp] theorem madeServices_append (t t' : Transcript) :
    madeServices (t ++ t') = t.madeServices ++ t'.madeServices :=
  List.filterMap_append

@[simp] theorem madeConfigMaps_append (t t' : Transcript) :
    madeConfigMaps (t ++ t') = t.madeConfigMaps ++ t'.madeConfigMaps :=
  List.filterMap_append

end Transcript

end GatewayOperator
