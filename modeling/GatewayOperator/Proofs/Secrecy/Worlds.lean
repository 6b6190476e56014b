import GatewayOperator.Proofs.Secrecy.Programs
import GatewayOperator.Proofs.Worlds

/-!
# Worlds that differ in their secrets

Two worlds are alike if they differ at most in the values in their secrets, and in what was sent and
written because of them.  Programs that behave alike come to related results in them.

## Main Definitions

* `Conditions` — which calls are refused, and what each address answers.
* `Cluster.Alike`, `World.Alike` — clusters and worlds that differ in the values in their secrets.

## Main Statements

* `World.Alike.respond` — an open question is answered in the same way.
* `Program.Alike.perform` — programs that behave alike come to related results in alike worlds.
* `World.perform_conditions` — a world answers as under conditions of its own.

## Design Notes

Any call may be refused, but not because of what a secret holds: whether a call is refused and with
which words depends on how many questions were asked before it.
-/

namespace GatewayOperator

/-! ### Clusters and worlds -/

/-- Two clusters differ at most in the values in their secrets. -/
structure Cluster.Alike (c c' : Cluster) : Prop where
  /-- The config maps are the same. -/
  configMaps : c.configMaps = c'.configMaps
  /-- The secrets have the same outlines. -/
  secrets : c.secrets.map Secret.outline = c'.secrets.map Secret.outline
  /-- The services are the same. -/
  services : c.services = c'.services
  /-- The replicated workloads are the same. -/
  deployments : c.deployments = c'.deployments
  /-- The statuses are the same. -/
  statuses : c.statuses = c'.statuses
  /-- As many names have been completed. -/
  namesGiven : c.namesGiven = c'.namesGiven

namespace Cluster.Alike

variable {c c' : Cluster}

/-- Under the same name there are secrets of the same outline, or none. -/
theorem get?_secret (alike : c.Alike c') (key : ObjectKey) :
    (c.secrets.get? key).map Secret.outline = (c'.secrets.get? key).map Secret.outline := by
  rw [← Dict.get?_map, ← Dict.get?_map, alike.secrets]

theorem fetch_secret (alike : c.Alike c') (key : ObjectKey) :
    SameOutcome Secret.Alike (c.secrets.fetch .secret key) (c'.secrets.fetch .secret key) := by
  have same := alike.get?_secret key
  unfold Shelf.fetch
  generalize c.secrets.get? key = found at same
  generalize c'.secrets.get? key = found' at same
  cases found with
  | some secret =>
    obtain ⟨secret', rfl, alike⟩ := Option.map_eq_some_iff.mp same.symm
    exact .ok alike.symm
  | none =>
    rw [Option.map_eq_none_iff.mp same.symm]
    exact .error _

/-- Writing over secrets with secrets of the same outline keeps the outlines the same. -/
theorem overwrite_secret (alike : c.Alike c') (key : ObjectKey) {object object' : Secret}
    (objects : object.Alike object') :
    SameOutcome (fun secrets secrets' : Shelf Secret =>
        secrets.map Secret.outline = secrets'.map Secret.outline)
      (c.secrets.overwrite .secret key object) (c'.secrets.overwrite .secret key object') := by
  have there : c.secrets.contains key = c'.secrets.contains key := by
    unfold Dict.contains
    rw [← Option.isSome_map (f := Secret.outline), alike.get?_secret, Option.isSome_map]
  unfold Shelf.overwrite
  rw [there]
  split
  · refine .ok ?_
    rw [← Dict.insert_map, ← Dict.insert_map, alike.secrets, objects]
  · exact .error _

end Cluster.Alike

/-- The report on a gateway that was made, if one was. -/
def Occurrence.report? : Occurrence → Option Event
  | .event _ _ reported => some reported
  | .call .. => none

namespace World

/-- The reports on gateways, the last first. -/
def reports (w : World) : List Event := w.occurrences.filterMap Occurrence.report?

/-- Two worlds differ at most in the values in their secrets, and in what was sent and written
because of them. -/
structure Alike (w w' : World) : Prop where
  /-- The clusters differ at most in the values in their secrets. -/
  cluster : w.cluster.Alike w'.cluster
  /-- The same operations are refused. -/
  failing : w.failing = w'.failing
  /-- The same operations find nothing. -/
  losing : w.losing = w'.losing
  /-- It is the same time. -/
  clock : w.clock = w'.clock
  /-- The same was reported. -/
  reports : w.reports = w'.reports

namespace Alike

variable {w w' : World} {α : Type} {rel : α → α → Prop}

theorem fault? (alike : w.Alike w') (call : StoreCall) (object : Option Json) :
    w.fault? call = w'.fault? { call with object } := by
  unfold World.fault?
  rw [alike.failing, alike.losing]

/-- A call that has related effects on the two clusters has related answers. -/
theorem carryOut (alike : w.Alike w') (call : StoreCall) (object : Option Json)
    {effect effect' : Cluster → Except StoreError (α × Cluster)}
    (effects : SameOutcome (fun p p' : α × Cluster => rel p.1 p'.1 ∧ p.2.Alike p'.2)
      (effect w.cluster) (effect' w'.cluster)) :
    SameOutcome rel (w.carryOut call effect).1 (w'.carryOut { call with object } effect').1 ∧
      (w.carryOut call effect).2.Alike (w'.carryOut { call with object } effect').2 := by
  unfold World.carryOut
  rw [← alike.fault? call object]
  cases w.fault? call with
  | some why => exact ⟨.error why, alike.cluster, alike.failing, alike.losing, alike.clock,
      alike.reports⟩
  | none =>
    dsimp only
    generalize effect w.cluster = outcome at effects
    generalize effect' w'.cluster = outcome' at effects
    cases effects with
    | @ok p p' related =>
      exact ⟨.ok related.1, related.2, alike.failing, alike.losing, alike.clock, alike.reports⟩
    | error why =>
      exact ⟨.error why, alike.cluster, alike.failing, alike.losing, alike.clock, alike.reports⟩

/-- A call that has the same effect on the two clusters has the same answer. -/
theorem carryOut_eq (alike : w.Alike w') {call : StoreCall}
    {effect : Cluster → Except StoreError (α × Cluster)}
    (effects : SameOutcome (fun p p' : α × Cluster => p.1 = p'.1 ∧ p.2.Alike p'.2)
      (effect w.cluster) (effect w'.cluster)) :
    (w.carryOut call effect).1 = (w'.carryOut call effect).1 ∧
      (w.carryOut call effect).2.Alike (w'.carryOut call effect).2 := by
  obtain ⟨answers, worlds⟩ := alike.carryOut call call.object effects
  exact ⟨answers.eq, worlds⟩

/-- New objects get the same names. -/
theorem christen (alike : w.Alike w') (ns : String) (metadata : Metadata) :
    (w.cluster.christen ns metadata).1 = (w'.cluster.christen ns metadata).1 ∧
      World.Alike { w with cluster := (w.cluster.christen ns metadata).2 }
        { w' with cluster := (w'.cluster.christen ns metadata).2 } := by
  unfold Cluster.christen
  dsimp only
  cases metadata.name with
  | some name => exact ⟨rfl, alike⟩
  | none =>
    rw [alike.cluster.namesGiven]
    exact ⟨rfl, { alike with cluster := { alike.cluster with namesGiven := rfl } }⟩

/-- An open question has the same answer in alike worlds. -/
theorem respond {q : Query} (isOpen : q.Open) (alike : w.Alike w') :
    (World.respond q w).1 = (World.respond q w').1 ∧
      (World.respond q w).2.Alike (World.respond q w').2 := by
  have configMaps := alike.cluster.configMaps
  have services := alike.cluster.services
  have deployments := alike.cluster.deployments
  cases q with
  | getConfigMap =>
    exact alike.carryOut_eq (.map_of_eq (by rw [configMaps]) fun _ => ⟨rfl, alike.cluster⟩)
  | getDeployment =>
    exact alike.carryOut_eq (.map_of_eq (by rw [deployments]) fun _ => ⟨rfl, alike.cluster⟩)
  | replaceConfigMap | deleteConfigMap =>
    exact alike.carryOut_eq
      (.map_of_eq (by rw [configMaps]) fun _ => ⟨rfl, { alike.cluster with configMaps := rfl }⟩)
  | deleteService =>
    exact alike.carryOut_eq
      (.map_of_eq (by rw [services]) fun _ => ⟨rfl, { alike.cluster with services := rfl }⟩)
  | replaceDeployment =>
    exact alike.carryOut_eq
      (.map_of_eq (by rw [deployments]) fun _ => ⟨rfl, { alike.cluster with deployments := rfl }⟩)
  | createConfigMap ns object =>
    obtain ⟨named, given⟩ := alike.christen ns object.metadata
    simp only [World.respond]
    rw [named]
    exact given.carryOut_eq (.map_of_eq (by rw [given.cluster.configMaps])
      fun _ => ⟨rfl, { given.cluster with configMaps := rfl }⟩)
  | createService ns object =>
    obtain ⟨named, given⟩ := alike.christen ns object.metadata
    simp only [World.respond]
    rw [named]
    exact given.carryOut_eq (.map_of_eq (by rw [given.cluster.services])
      fun _ => ⟨rfl, { given.cluster with services := rfl }⟩)
  | createDeployment ns object =>
    obtain ⟨named, given⟩ := alike.christen ns object.metadata
    simp only [World.respond]
    rw [named]
    exact given.carryOut_eq (.map_of_eq (by rw [given.cluster.deployments])
      fun _ => ⟨rfl, { given.cluster with deployments := rfl }⟩)
  | patchStatus =>
    exact alike.carryOut_eq
      (.ok ⟨rfl, { alike.cluster with statuses := by rw [alike.cluster.statuses] }⟩)
  | publish gateway event =>
    refine ⟨rfl, { alike with reports := ?_ }⟩
    exact congrArg (event :: ·) alike.reports
  | now => exact ⟨alike.clock, alike⟩
  | measure m => exact ⟨rfl, alike.cluster, alike.failing, alike.losing, alike.clock, alike.reports⟩
  | getSecret | replaceSecret | fetch => exact isOpen.elim

/-- Reading a secret yields secrets of the same outline. -/
theorem respond_getSecret (alike : w.Alike w') (ns name : String) :
    SameOutcome Secret.Alike (World.respond (.getSecret ns name) w).1
        (World.respond (.getSecret ns name) w').1 ∧
      (World.respond (.getSecret ns name) w).2.Alike (World.respond (.getSecret ns name) w').2 :=
  alike.carryOut _ none ((alike.cluster.fetch_secret ⟨ns, name⟩).map fun _ _ related =>
    ⟨related, alike.cluster⟩)

/-- Writing secrets of the same outline keeps worlds alike. -/
theorem respond_replaceSecret (alike : w.Alike w') (ns : String) {object object' : Secret}
    (objects : object.Alike object') :
    SameOutcome Secret.Alike (World.respond (.replaceSecret ns object) w).1
        (World.respond (.replaceSecret ns object') w').1 ∧
      (World.respond (.replaceSecret ns object) w).2.Alike
        (World.respond (.replaceSecret ns object') w').2 := by
  simp only [World.respond]
  rw [← objects.metadata]
  exact alike.carryOut _ (some object'.toJson)
    ((alike.cluster.overwrite_secret _ objects).map fun _ _ secrets =>
      ⟨objects, { alike.cluster with secrets }⟩)

end Alike

end World

/-! ### Programs in alike worlds -/

/-- The world that has recorded a question but does not answer it. -/
def World.saw (w : World) : Query → World
  | .fetch request => { w with requests := request :: w.requests }
  | _ => w

theorem World.Alike.saw {w w' : World} (alike : w.Alike w') (q q' : Query) :
    (w.saw q).Alike (w'.saw q') := by
  unfold World.saw
  split <;> split <;>
    exact ⟨alike.cluster, alike.failing, alike.losing, alike.clock, alike.reports⟩

/-- What decides about the answers along with a world: which calls are refused, by the number of
questions that were asked before, and what is answered at each address. -/
structure Conditions where
  /-- Why a call is refused, if it is. -/
  refusal : Nat → Option StoreError
  /-- What is answered at an address. -/
  network : String → Except String HttpResponse

namespace Conditions

/-- The answer to a question that is not for the cluster, or that the cluster refuses. -/
def answer? (conditions : Conditions) (n : Nat) : (q : Query) → Option q.Answer
  | .fetch request => some (conditions.network request.url)
  | .publish .. | .now | .measure _ => none
  | .getConfigMap .. | .createConfigMap .. | .replaceConfigMap .. =>
    (conditions.refusal n).map .error
  | .getSecret .. | .replaceSecret .. => (conditions.refusal n).map .error
  | .createService .. => (conditions.refusal n).map .error
  | .getDeployment .. | .createDeployment .. | .replaceDeployment .. =>
    (conditions.refusal n).map .error
  | .deleteConfigMap .. | .deleteService .. | .patchStatus .. => (conditions.refusal n).map .error

/-- The answer to a question after some others. -/
def respond (conditions : Conditions) (q : Query) : Nat × World → q.Answer × (Nat × World)
  | (n, w) =>
    match conditions.answer? n q with
    | some answer => (answer, n + 1, w.saw q)
    | none => ((World.respond q w).1, n + 1, (World.respond q w).2)

/-- A program performed in a world under some conditions. -/
def perform {α : Type} (conditions : Conditions) (w : World) (program : Program α) : α × World :=
  let (result, _, w') := program.run conditions.respond (0, w)
  (result, w')

/-- An open question has the same answer in alike worlds, whether it is refused or not. -/
theorem respond_open (conditions : Conditions) {q : Query} (isOpen : q.Open) {w w' : World}
    (alike : w.Alike w') (n : Nat) :
    (conditions.respond q (n, w)).1 = (conditions.respond q (n, w')).1 ∧
      ∃ w₁ w₁', (conditions.respond q (n, w)).2 = (n + 1, w₁) ∧
        (conditions.respond q (n, w')).2 = (n + 1, w₁') ∧ w₁.Alike w₁' := by
  unfold respond
  dsimp only
  cases conditions.answer? n q with
  | some answer => exact ⟨rfl, _, _, rfl, rfl, alike.saw q q⟩
  | none =>
    obtain ⟨answers, worlds⟩ := alike.respond isOpen
    exact ⟨answers, _, _, rfl, rfl, worlds⟩

end Conditions

/-- Programs that behave alike come to related results in alike worlds, and leave alike worlds. -/
theorem Program.Alike.run {α α' : Type} {rel : α → α' → Prop} {p : Program α} {p' : Program α'}
    (conditions : Conditions) (alike : p.Alike rel p') (n : Nat) {w w' : World}
    (worlds : w.Alike w') :
    rel (p.run conditions.respond (n, w)).1 (p'.run conditions.respond (n, w')).1 ∧
      (p.run conditions.respond (n, w)).2.2.Alike (p'.run conditions.respond (n, w')).2.2 := by
  -- Both have asked the same number of questions, so what is refused to one is refused to both.
  induction alike generalizing n w w' with
  | done related => exact ⟨related, worlds⟩
  | @ask q next next' isOpen go ih =>
    obtain ⟨same, w₁, w₁', left, left', alike⟩ := conditions.respond_open isOpen worlds n
    simp only [Program.run]
    rw [left, left', same]
    exact ih _ (n + 1) alike
  | fetch url go ih =>
    simp only [Program.run, Conditions.respond, Conditions.answer?]
    rw [url]
    exact ih _ (n + 1) (worlds.saw _ _)
  | @getSecret ns name next next' go ih =>
    simp only [Program.run, Conditions.respond, Conditions.answer?]
    cases conditions.refusal n with
    | some why => exact ih _ _ (.error why) (n + 1) worlds
    | none =>
      obtain ⟨answers, alike⟩ := worlds.respond_getSecret ns name
      exact ih _ _ answers (n + 1) alike
  | @replaceSecret ns object object' next next' objects go ih =>
    simp only [Program.run, Conditions.respond, Conditions.answer?]
    cases conditions.refusal n with
    | some why => exact ih _ _ (.error why) (n + 1) worlds
    | none =>
      obtain ⟨answers, alike⟩ := worlds.respond_replaceSecret ns objects
      exact ih _ _ answers (n + 1) alike

theorem Program.Alike.perform {α α' : Type} {rel : α → α' → Prop} {p : Program α} {p' : Program α'}
    (conditions : Conditions) (alike : p.Alike rel p') {w w' : World} (worlds : w.Alike w') :
    rel (conditions.perform w p).1 (conditions.perform w' p').1 ∧
      (conditions.perform w p).2.Alike (conditions.perform w' p').2 :=
  alike.run conditions 0 worlds

namespace World

/-- The conditions of a world: it refuses what it refuses by itself, and its network answers. -/
def conditions (w : World) : Conditions where
  refusal _ := none
  network url := w.fetch { method := .get, url }

theorem respond_conditions {w w' : World} (same : w.SameNetwork w') (q : Query) (n : Nat) :
    w.conditions.respond q (n, w') = ((respond q w').1, n + 1, (respond q w').2) := by
  cases q with
  | fetch request =>
    have answers : w.fetch { method := .get, url := request.url } = w'.fetch request := by
      unfold fetch
      rw [same.2.2]
    exact congrArg (·, n + 1, w'.saw (.fetch request)) answers
  | _ => rfl

/-- Under its own conditions a program comes to what it comes to in the world. -/
theorem perform_conditions (w : World) {α : Type} (program : Program α) :
    w.conditions.perform w program = w.perform program := by
  suffices runs : ∀ w', w.SameNetwork w' → ∀ n, ∃ n',
      program.run w.conditions.respond (n, w') =
        ((program.run respond w').1, n', (program.run respond w').2) by
    obtain ⟨n', ran⟩ := runs w ⟨rfl, rfl, rfl⟩ 0
    unfold Conditions.perform
    rw [ran]
    rfl
  induction program with
  | done result => exact fun w' same n => ⟨n, rfl⟩
  | ask q cont ih =>
    intro w' same n
    simp only [Program.run]
    rw [respond_conditions same]
    exact ih _ _ (same.trans (sameNetwork_respond q w')) (n + 1)

end World

end GatewayOperator
