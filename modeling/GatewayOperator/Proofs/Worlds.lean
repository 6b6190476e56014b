import GatewayOperator.Proofs.Platform
import GatewayOperator.World

/-!
# Worlds as platforms

A world computes its answers.  They are answers that a platform allows, so whatever holds of
every run on a platform holds of a program performed in a world.

## Main Definitions

* `World.platform` — the platform that a world is.

## Main Statements

* `World.perform_yields` — performing a program in a world is a run on its platform.

## Design Notes

The name that a world completes may be taken, and then the object is refused.  So the creation of
an object is never sure to be carried out in a world.
-/

namespace GatewayOperator

/-- The operation of a call to the cluster. -/
def Query.operation? : Query → Option String
  | .getConfigMap .. => some "get_config_map"
  | .createConfigMap .. => some "create_config_map"
  | .replaceConfigMap .. => some "replace_config_map"
  | .deleteConfigMap .. => some "delete_config_map"
  | .getSecret .. => some "get_secret"
  | .replaceSecret .. => some "replace_secret"
  | .createService .. => some "create_service"
  | .deleteService .. => some "delete_service"
  | .getDeployment .. => some "get_deployment"
  | .createDeployment .. => some "create_deployment"
  | .replaceDeployment .. => some "replace_deployment"
  | .patchStatus .. => some "patch_gateway_status"
  | .publish .. | .fetch _ | .now | .measure _ => none

/-- Whether a question makes a new object. -/
def Query.creates : Query → Bool
  | .createConfigMap .. | .createService .. | .createDeployment .. => true
  | _ => false

namespace World

/-- The platform that a world is: the operations that it lets work are sure to be carried out,
apart from creations, and the network answers as it does. -/
def platform (w : World) : Platform where
  certain q := q.creates = false ∧
    ∀ operation ∈ q.operation?, operation ∉ w.failing ∧ operation ∉ w.losing
  network request answer := answer = w.fetch request
  network_total request := ⟨w.fetch request, rfl⟩

/-! ### Calls -/

variable {α : Type} {w : World} {call : StoreCall}
  {effect : Cluster → Except StoreError (α × Cluster)}

/-- A call is refused because it is to fail, is carried out, or is refused by the cluster. -/
theorem carryOut_cases (w : World) (call : StoreCall)
    (effect : Cluster → Except StoreError (α × Cluster)) :
    (∃ why, w.fault? call = some why ∧ (w.carryOut call effect).1 = .error why ∧
      (w.carryOut call effect).2.cluster = w.cluster) ∨
    (∃ value cluster, effect w.cluster = .ok (value, cluster) ∧
      (w.carryOut call effect).1 = .ok value ∧ (w.carryOut call effect).2.cluster = cluster) ∨
    ∃ why, effect w.cluster = .error why ∧ (w.carryOut call effect).1 = .error why ∧
      (w.carryOut call effect).2.cluster = w.cluster := by
  unfold carryOut
  cases fault : w.fault? call with
  | some why => exact Or.inl ⟨why, rfl, rfl, rfl⟩
  | none =>
    cases done : effect w.cluster with
    | ok pair => exact Or.inr (Or.inl ⟨pair.1, pair.2, rfl, rfl, rfl⟩)
    | error why => exact Or.inr (Or.inr ⟨why, rfl, rfl, rfl⟩)

theorem fault?_ne_none {why : StoreError} (h : w.fault? call = some why) :
    ¬(call.operation ∉ w.failing ∧ call.operation ∉ w.losing) := by
  rintro ⟨works, finds⟩
  unfold fault? at h
  rw [if_neg (by simpa using works), if_neg (by simpa using finds)] at h
  cases h

/-- What decides about the failures of a world and its network. -/
def SameNetwork (w w' : World) : Prop :=
  w'.failing = w.failing ∧ w'.losing = w.losing ∧ w'.routes = w.routes

theorem SameNetwork.trans {w₁ w₂ w₃ : World} (h : w₁.SameNetwork w₂) (h' : w₂.SameNetwork w₃) :
    w₁.SameNetwork w₃ :=
  ⟨h'.1.trans h.1, h'.2.1.trans h.2.1, h'.2.2.trans h.2.2⟩

theorem sameNetwork_carryOut (w : World) (call : StoreCall)
    (effect : Cluster → Except StoreError (α × Cluster)) :
    w.SameNetwork (w.carryOut call effect).2 := by
  unfold carryOut
  dsimp only
  split <;> exact ⟨rfl, rfl, rfl⟩

theorem sameNetwork_respond (q : Query) (w : World) : w.SameNetwork (respond q w).2 := by
  cases q with
  | publish | fetch | now | measure => exact ⟨rfl, rfl, rfl⟩
  | createConfigMap ns object =>
    exact sameNetwork_carryOut
      { w with cluster := (w.cluster.christen ns object.metadata).2 } _ _
  | createService ns object =>
    exact sameNetwork_carryOut
      { w with cluster := (w.cluster.christen ns object.metadata).2 } _ _
  | createDeployment ns object =>
    exact sameNetwork_carryOut
      { w with cluster := (w.cluster.christen ns object.metadata).2 } _ _
  | _ => exact sameNetwork_carryOut w _ _

theorem sameNetwork_perform (w : World) {α : Type} (program : Program α) :
    w.SameNetwork (w.perform program).2 := by
  induction program generalizing w with
  | done result => exact ⟨rfl, rfl, rfl⟩
  | ask q cont ih => exact (sameNetwork_respond q w).trans (ih _ (respond q w).2)

theorem platform_eq {w w' : World} (same : w.SameNetwork w') :
    w'.platform = w.platform := by
  obtain ⟨failing, losing, routes⟩ := same
  unfold platform fetch
  simp only [failing, losing, routes]

/-! ### New objects -/

theorem serial_ne_empty (n : Nat) : Cluster.serial n ≠ "" := by
  intro empty
  have length := congrArg String.length empty
  simp only [Cluster.serial, String.length_append, String.length_ofList, List.length_replicate,
    String.length_empty] at length
  omega

/-- A new object gets its own name, or one that is not empty. -/
theorem christen_eq (c : Cluster) (ns : String) (metadata : Metadata) :
    ∃ name n, c.christen ns metadata =
        (metadata.placed ns name, { c with namesGiven := n }) ∧
      (metadata.name = some name ∨ metadata.name = none ∧ name ≠ "") := by
  unfold Cluster.christen Metadata.placed
  cases named : metadata.name with
  | some name => exact ⟨name, c.namesGiven, by simp, Or.inl rfl⟩
  | none =>
    refine ⟨_, c.namesGiven + 1, rfl, Or.inr ⟨rfl, fun empty => ?_⟩⟩
    exact serial_ne_empty _ (String.append_eq_empty_iff.mp empty).2

/-- Where a new object is placed under its name, it is created; where its name is taken, it is
refused or could have had another one. -/
theorem creates_of_place {shelf : Shelf α} {operation : String} {kind : ObjectKind}
    {ns name : String} {metadata : Metadata} (make : Metadata → α)
    (named : metadata.name = some name ∨ metadata.name = none ∧ name ≠ "")
    {answer : Except StoreError α} {shelf' : Shelf α}
    (h : shelf.Settles (shelf.place operation kind ⟨ns, name⟩ (make (metadata.placed ns name)))
      (make (metadata.placed ns name)) answer shelf') :
    (∃ why, answer = .error why) ∧ shelf' = shelf ∨
      shelf.Creates ns metadata make answer shelf' := by
  unfold Shelf.place at h
  by_cases taken : shelf.contains ⟨ns, name⟩ = true
  · rw [if_pos taken] at h
    exact Or.inl ⟨⟨_, h.1⟩, h.2⟩
  · rw [if_neg taken] at h
    exact Or.inr (Or.inl ⟨name, named, by simpa [Dict.contains] using taken, h⟩)

/-! ### Answers -/

/-- A call that reads is refused because it is to fail, or is answered. -/
theorem carryOut_reads (w : World) (call : StoreCall) (view : Cluster → Except StoreError α) :
    (∃ why, w.fault? call = some why ∧
      (w.carryOut call fun c => (view c).map (·, c)).1 = .error why ∧
      (w.carryOut call fun c => (view c).map (·, c)).2.cluster = w.cluster) ∨
    (w.carryOut call fun c => (view c).map (·, c)).1 = view w.cluster ∧
      (w.carryOut call fun c => (view c).map (·, c)).2.cluster = w.cluster := by
  rcases carryOut_cases w call fun c => (view c).map (·, c) with
    fault | ⟨value, cluster, done, answer, same⟩ | ⟨why, done, answer, same⟩
  · exact Or.inl fault
  · cases read : view w.cluster with
    | ok object =>
      rw [read] at done
      cases done
      exact Or.inr ⟨answer, same⟩
    | error why =>
      rw [read] at done
      cases done
  · cases read : view w.cluster with
    | ok object =>
      rw [read] at done
      cases done
    | error why' =>
      rw [read] at done
      cases done
      exact Or.inr ⟨answer, same⟩

/-- A call that changes a shelf is refused because it is to fail, or settles. -/
theorem carryOut_settles {β : Type} (w : World) (call : StoreCall) (view : Cluster → Shelf β)
    (change : Cluster → Except StoreError (Shelf β)) (value : α)
    (put : Cluster → Shelf β → Cluster) (same : put w.cluster (view w.cluster) = w.cluster) :
    (∃ why, w.fault? call = some why ∧
      (w.carryOut call fun c => (change c).map fun shelf => (value, put c shelf)).1 =
        .error why ∧
      (w.carryOut call fun c => (change c).map fun shelf => (value, put c shelf)).2.cluster =
        w.cluster) ∨
    ∃ shelf, (view w.cluster).Settles (change w.cluster) value
        (w.carryOut call fun c => (change c).map fun shelf => (value, put c shelf)).1 shelf ∧
      (w.carryOut call fun c => (change c).map fun shelf => (value, put c shelf)).2.cluster =
        put w.cluster shelf := by
  rcases carryOut_cases w call fun c => (change c).map fun shelf => (value, put c shelf) with
    fault | ⟨value', cluster, done, answer, after⟩ | ⟨why, done, answer, after⟩
  · exact Or.inl fault
  · cases changed : change w.cluster with
    | ok shelf =>
      rw [changed] at done
      cases done
      exact Or.inr ⟨shelf, ⟨answer, rfl⟩, after⟩
    | error why =>
      rw [changed] at done
      cases done
  · cases changed : change w.cluster with
    | ok shelf =>
      rw [changed] at done
      cases done
    | error why' =>
      rw [changed] at done
      cases done
      exact Or.inr ⟨view w.cluster, ⟨answer, rfl⟩, after.trans same.symm⟩

/-- A call that makes an object is refused, or creates the object. -/
theorem carryOut_creates (w : World) (call : StoreCall) (view : Cluster → Shelf α)
    (operation : String) (kind : ObjectKind) {ns name : String} {metadata : Metadata}
    (make : Metadata → α) (put : Cluster → Shelf α → Cluster)
    (named : metadata.name = some name ∨ metadata.name = none ∧ name ≠ "")
    (same : put w.cluster (view w.cluster) = w.cluster) :
    let made := w.carryOut call fun c =>
      ((view c).place operation kind ⟨ns, name⟩ (make (metadata.placed ns name))).map fun shelf =>
        (make (metadata.placed ns name), put c shelf)
    (∃ why, made.1 = .error why) ∧ made.2.cluster = w.cluster ∨
      ∃ shelf, (view w.cluster).Creates ns metadata make made.1 shelf ∧
        made.2.cluster = put w.cluster shelf := by
  intro made
  rcases carryOut_settles w call view
      (fun c => (view c).place operation kind ⟨ns, name⟩ (make (metadata.placed ns name)))
      (make (metadata.placed ns name)) put same with
    ⟨why, fault, answer, after⟩ | ⟨shelf, done, after⟩
  · exact Or.inl ⟨⟨why, answer⟩, after⟩
  · rcases creates_of_place make named done with ⟨refused, rfl⟩ | created
    · exact Or.inl ⟨refused, after.trans same⟩
    · exact Or.inr ⟨shelf, created, after⟩

/-- A call that is to fail is not sure to be carried out. -/
theorem uncertain_of_fault {q : Query} {why : StoreError}
    (fault : w.fault? call = some why) (asked : q.operation? = some call.operation) :
    ¬w.platform.certain q := fun sure =>
  fault?_ne_none fault (sure.2 call.operation asked)

/-- The creation of an object is not sure to be carried out. -/
theorem uncertain_of_creates {q : Query} (made : q.creates = true) :
    ¬w.platform.certain q := fun sure => by
  rw [sure.1] at made
  cases made

/-- The answers of a world are answers of its platform. -/
theorem answers_respond (q : Query) (w : World) :
    w.platform.Answers q w.cluster (respond q w).1 (respond q w).2.cluster := by
  cases q with
  | getConfigMap ns name =>
    rcases carryOut_reads w ⟨"get_config_map", .configMap, ⟨ns, name⟩, none⟩ fun c =>
        c.configMaps.fetch .configMap ⟨ns, name⟩ with ⟨why, fault, answer, same⟩ | read
    · exact Or.inr ⟨uncertain_of_fault fault rfl, ⟨why, answer⟩, w.cluster.namesGiven, same⟩
    · exact Or.inl read
  | getSecret ns name =>
    rcases carryOut_reads w ⟨"get_secret", .secret, ⟨ns, name⟩, none⟩ fun c =>
        c.secrets.fetch .secret ⟨ns, name⟩ with ⟨why, fault, answer, same⟩ | read
    · exact Or.inr ⟨uncertain_of_fault fault rfl, ⟨why, answer⟩, w.cluster.namesGiven, same⟩
    · exact Or.inl read
  | getDeployment ns name =>
    rcases carryOut_reads w ⟨"get_deployment", .deployment, ⟨ns, name⟩, none⟩ fun c =>
        c.deployments.fetch .deployment ⟨ns, name⟩ with ⟨why, fault, answer, same⟩ | read
    · exact Or.inr ⟨uncertain_of_fault fault rfl, ⟨why, answer⟩, w.cluster.namesGiven, same⟩
    · exact Or.inl read
  | replaceConfigMap ns object =>
    rcases carryOut_settles w ⟨"replace_config_map", .configMap, ⟨ns, object.metadata.nameText⟩,
          some object.toJson⟩
        (·.configMaps)
        (fun c => c.configMaps.overwrite .configMap ⟨ns, object.metadata.nameText⟩ object)
        object (fun c configMaps => { c with configMaps }) rfl with
      ⟨why, fault, answer, same⟩ | done
    · exact Or.inr ⟨uncertain_of_fault fault rfl, ⟨why, answer⟩, w.cluster.namesGiven, same⟩
    · exact Or.inl done
  | replaceSecret ns object =>
    rcases carryOut_settles w ⟨"replace_secret", .secret, ⟨ns, object.metadata.nameText⟩,
          some object.toJson⟩
        (·.secrets)
        (fun c => c.secrets.overwrite .secret ⟨ns, object.metadata.nameText⟩ object)
        object (fun c secrets => { c with secrets }) rfl with
      ⟨why, fault, answer, same⟩ | done
    · exact Or.inr ⟨uncertain_of_fault fault rfl, ⟨why, answer⟩, w.cluster.namesGiven, same⟩
    · exact Or.inl done
  | replaceDeployment ns object =>
    rcases carryOut_settles w ⟨"replace_deployment", .deployment, ⟨ns, object.metadata.nameText⟩,
          some object.toJson⟩
        (·.deployments)
        (fun c => c.deployments.overwrite .deployment ⟨ns, object.metadata.nameText⟩ object)
        object (fun c deployments => { c with deployments }) rfl with
      ⟨why, fault, answer, same⟩ | done
    · exact Or.inr ⟨uncertain_of_fault fault rfl, ⟨why, answer⟩, w.cluster.namesGiven, same⟩
    · exact Or.inl done
  | deleteConfigMap ns name =>
    rcases carryOut_settles w ⟨"delete_config_map", .configMap, ⟨ns, name⟩, none⟩
        (·.configMaps)
        (fun c => c.configMaps.remove .configMap ⟨ns, name⟩)
        () (fun c configMaps => { c with configMaps }) rfl with
      ⟨why, fault, answer, same⟩ | done
    · exact Or.inr ⟨uncertain_of_fault fault rfl, ⟨why, answer⟩, w.cluster.namesGiven, same⟩
    · exact Or.inl done
  | deleteService ns name =>
    rcases carryOut_settles w ⟨"delete_service", .service, ⟨ns, name⟩, none⟩
        (·.services)
        (fun c => c.services.remove .service ⟨ns, name⟩)
        () (fun c services => { c with services }) rfl with
      ⟨why, fault, answer, same⟩ | done
    · exact Or.inr ⟨uncertain_of_fault fault rfl, ⟨why, answer⟩, w.cluster.namesGiven, same⟩
    · exact Or.inl done
  | createConfigMap ns object =>
    obtain ⟨name, n, christened, named⟩ := christen_eq w.cluster ns object.metadata
    simp only [respond, christened, Metadata.nameText_placed]
    rcases carryOut_creates { w with cluster := { w.cluster with namesGiven := n } } _
        (·.configMaps)
        "create_config_map" .configMap (fun metadata => { object with metadata })
        (fun c configMaps => { c with configMaps }) named rfl with
      ⟨why, same⟩ | ⟨shelf, made, same⟩
    · exact Or.inr ⟨uncertain_of_creates rfl, why, n, same⟩
    · exact Or.inl ⟨shelf, n, made, same⟩
  | createService ns object =>
    obtain ⟨name, n, christened, named⟩ := christen_eq w.cluster ns object.metadata
    simp only [respond, christened, Metadata.nameText_placed]
    rcases carryOut_creates { w with cluster := { w.cluster with namesGiven := n } } _
        (·.services)
        "create_service" .service (fun metadata => { object with metadata })
        (fun c services => { c with services }) named rfl with
      ⟨why, same⟩ | ⟨shelf, made, same⟩
    · exact Or.inr ⟨uncertain_of_creates rfl, why, n, same⟩
    · exact Or.inl ⟨shelf, n, made, same⟩
  | createDeployment ns object =>
    obtain ⟨name, n, christened, named⟩ := christen_eq w.cluster ns object.metadata
    simp only [respond, christened, Metadata.nameText_placed]
    rcases carryOut_creates { w with cluster := { w.cluster with namesGiven := n } } _
        (·.deployments)
        "create_deployment" .deployment (fun metadata => { object with metadata })
        (fun c deployments => { c with deployments }) named rfl with
      ⟨why, same⟩ | ⟨shelf, made, same⟩
    · exact Or.inr ⟨uncertain_of_creates rfl, why, n, same⟩
    · exact Or.inl ⟨shelf, n, made, same⟩
  | patchStatus ns name status =>
    rcases carryOut_cases w ⟨"patch_gateway_status", .gateway, ⟨ns, name⟩, some status.toJson⟩
        fun c => .ok ((), { c with statuses := c.statuses.insert ⟨ns, name⟩ status }) with
      ⟨why, fault, answer, same⟩ | ⟨value, cluster, done, answer, same⟩ | ⟨why, impossible, -⟩
    · exact Or.inr ⟨uncertain_of_fault fault rfl, ⟨why, answer⟩, w.cluster.namesGiven, same⟩
    · cases done
      exact Or.inl ⟨answer, same⟩
    · cases impossible
  | fetch request => exact Or.inl ⟨rfl, rfl⟩
  | now => exact Or.inl rfl
  | publish gateway event => exact Or.inl rfl
  | measure m => exact Or.inl rfl

/-- A world in which no call loses what it looks for denies no config map that it has. -/
theorem answersTruly_respond (finds : w.losing = []) (q : Query) :
    w.platform.AnswersTruly q w.cluster (respond q w).1 (respond q w).2.cluster := by
  refine ⟨answers_respond q w, fun missing => ?_⟩
  cases q with
  | getConfigMap ns name =>
    rcases carryOut_reads w ⟨"get_config_map", .configMap, ⟨ns, name⟩, none⟩ fun c =>
        c.configMaps.fetch .configMap ⟨ns, name⟩ with ⟨why, fault, answer, -⟩ | read
    · -- A call that is to fail is refused, and does not say that anything is missing.
      obtain ⟨kind, name', said⟩ := missing
      cases answer.symm.trans said
      unfold fault? at fault
      rw [finds] at fault
      split at fault
      · cases fault
      · cases fault
    · exact read
  | _ => exact missing.elim

/-- What is asked and answered when a program is performed in a world. -/
def transcript (w : World) {α : Type} (program : Program α) : Transcript := program.trace respond w

/-- A program is answered as the world in which it is performed answers. -/
theorem yields_of_respond {answers : Responder Cluster} {w : World}
    (allowed : ∀ q w', w.SameNetwork w' →
      answers q w'.cluster (respond q w').1 (respond q w').2.cluster)
    {α : Type} (program : Program α) :
    program.Yields answers w.cluster (w.transcript program) (w.perform program).1
      (w.perform program).2.cluster :=
  Program.yields_run (·.cluster) w.SameNetwork
    (fun q w' same => same.trans (sameNetwork_respond q w')) allowed program w ⟨rfl, rfl, rfl⟩

/-- Performing a program in a world is a run on its platform. -/
theorem yields_transcript (w : World) {α : Type} (program : Program α) :
    program.Yields w.platform.Answers w.cluster (w.transcript program) (w.perform program).1
      (w.perform program).2.cluster := by
  refine yields_of_respond (fun q w' same => ?_) program
  rw [← platform_eq same]
  exact answers_respond q w'

theorem perform_yields (w : World) {α : Type} (program : Program α) :
    ∃ t, program.Yields w.platform.Answers w.cluster t (w.perform program).1
      (w.perform program).2.cluster :=
  ⟨_, w.yields_transcript program⟩

/-- So is performing one in a world in which no call loses what it looks for, and then no config map
is denied that is there. -/
theorem perform_yields_truly (finds : w.losing = []) {α : Type} (program : Program α) :
    ∃ t, program.Yields w.platform.AnswersTruly w.cluster t (w.perform program).1
      (w.perform program).2.cluster := by
  refine ⟨_, yields_of_respond (fun q w' same => ?_) program⟩
  rw [← platform_eq same]
  exact answersTruly_respond (same.2.1.trans finds) q

end World

end GatewayOperator
