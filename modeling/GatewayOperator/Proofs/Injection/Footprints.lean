import GatewayOperator.Proofs.Injection.Ownership
import GatewayOperator.Proofs.Json.Places

/-!
# What a patch changes

A patch is computed from what was read of a workload, and applied to the workload as it was
submitted.  This module says of the submitted value, and not only of what is read from it, that the
patch can be applied and what it changes.

## Main Definitions

* `Json.itemName` — the name of an item of a list.
* `Json.ListPut` — a list to which an item of some name was added, or in which the first one of that
  name was replaced.
* `ChangesOnlyGateway` — a workload in which nothing changed but what belongs to its gateway.
* `Patch.Puts`, `Patch.Records` — the parts of a patch: at most one item is put into a list, and
  only the names of what was made are recorded.

## Main Statements

* `AdmittedObject.Legible.lists` — where the lists that are read stand in a workload.
* `exists_changed` — a patch of such parts can be applied, and changes nothing else.
* `patch_changes_only_gateway` — the patch of every review is one.

## Design Notes

A workload may hold its fields in any order and more than once, and lists may be missing or null.
So values are compared place by place, where the last field of a name counts, and lists by their
items.
-/

namespace GatewayOperator

open Json

/-! ### Lists with named items -/

/-- The name of an item of a list, empty if it has none. -/
def Json.itemName (item : Json) : String := ((item.get? "name").bind string?).getD ""

/-- A list, absent or null if it is empty, before and after an item of some name was put into it. -/
inductive Json.ListPut (name : String) (before : Option Json) : Option Json → Prop
  /-- The list is as it was. -/
  | kept : ListPut name before before
  /-- The item stands behind all others. -/
  | appended {new : Json} (named : new.itemName = name) :
      ListPut name before (some (.array (listItems before ++ [new])))
  /-- The item stands in place of the first one of its name. -/
  | replaced {new : Json} {index : Nat} (named : new.itemName = name)
      (first : (listItems before).findIdx? (fun item => item.itemName = name) = some index) :
      ListPut name before (some (.array ((listItems before).set index new)))

/-- The name that is read of an item is its name. -/
theorem Json.itemName_of_read {item : Json} {name : String}
    (read : lenient "" readText (item.get? "name") = some name) : item.itemName = name := by
  unfold itemName
  unfold lenient at read
  split at read
  · next absent =>
    cases read
    rw [absent]
    rfl
  · next null =>
    cases read
    rw [null]
    rfl
  · next found =>
    rw [found, Option.bind_some]
    exact congrArg (Option.getD · "") read

theorem Container.itemName {item : Json} {container : Container}
    (read : Container.ofJson? item = some container) : item.itemName = container.name := by
  unfold Container.ofJson? at read
  simp only [Option.bind_eq_bind, Option.bind_eq_some_iff] at read
  obtain ⟨_, -, name, named, _, -, _, -, _, -, _, -, _, -, _, -, _, -, same⟩ := read
  cases same
  exact itemName_of_read named

theorem Volume.itemName {item : Json} {volume : Volume}
    (read : Volume.ofJson? item = some volume) : item.itemName = volume.name := by
  unfold Volume.ofJson? at read
  simp only [Option.bind_eq_bind, Option.bind_eq_some_iff] at read
  obtain ⟨_, -, name, named, _, -, _, -, _, -, same⟩ := read
  cases same
  exact itemName_of_read named

/-- The first value of a name is read from the first item of that name. -/
theorem Json.findIdx?_of_mapM {α : Type} {read : Read α} {items : List Json} {values : List α}
    {p : α → Bool} {q : Json → Bool} (mapped : items.mapM read = some values)
    (alike : ∀ item value, read item = some value → q item = p value) :
    items.findIdx? q = values.findIdx? p := by
  induction items generalizing values with
  | nil =>
    cases mapped
    rfl
  | cons item rest ih =>
    simp only [List.mapM_cons, Option.bind_eq_bind, Option.bind_eq_some_iff] at mapped
    obtain ⟨value, item_read, others, rest_read, same⟩ := mapped
    cases same
    rw [List.findIdx?_cons, List.findIdx?_cons, alike item value item_read, ih rest_read]

/-! ### Where the lists of a workload stand -/

namespace AdmittedObject.Legible

variable {kind : WorkloadKind} {object : Json} {metadata : Metadata} {pod : PodSpec}

/-- The pod that is read of a workload stands under its kind's path. -/
theorem at?_pod (legible : Legible kind object metadata pod) :
    ∃ v, object.at? (kind.podPath ++ ["spec"]) = some v ∧ PodSpec.ofJson? v = some pod := by
  unfold Legible at legible
  cases kind with
  | pod =>
    obtain ⟨p, decoded, same⟩ := Option.map_eq_some_iff.mp legible
    obtain ⟨⟨fields, isObject⟩, -, -, hspec⟩ := Pod.ofJson?_eq_some_iff.mp decoded
    obtain ⟨_, spec⟩ := p
    cases same
    obtain ⟨v, found, read⟩ := optional_eq_some_some hspec
    refine ⟨v, ?_, read⟩
    unfold WorkloadKind.podPath
    simp [child?_of_fields? isObject, found]
  | deployment =>
    obtain ⟨d, decoded, same⟩ := Option.map_eq_some_iff.mp legible
    obtain ⟨⟨fields, isObject⟩, -, -, hspec⟩ := Deployment.ofJson?_eq_some_iff.mp decoded
    obtain ⟨_, spec⟩ := d
    cases spec with
    | none => cases same
    | some spec =>
      obtain ⟨rfl, carries⟩ := Prod.mk.injEq .. ▸ same
      obtain ⟨s, foundSpec, readSpec⟩ := optional_eq_some_some hspec
      obtain ⟨⟨_, specObject⟩, t, foundTemplate, -, ⟨_, templateObject⟩, v, found, read⟩ :=
        DeploymentSpec.reads readSpec carries
      refine ⟨v, ?_, read⟩
      unfold WorkloadKind.podPath
      simp [child?_of_fields? isObject, foundSpec, child?_of_fields? specObject, foundTemplate,
        child?_of_fields? templateObject, found]

/-- The lists that are read of a workload stand in its pod. -/
theorem lists (legible : Legible kind object metadata pod) :
    (∃ fields, object.at? (kind.podPath ++ ["spec"]) = some (.object fields)) ∧
      (listItems (object.at? (containersPath kind))).mapM Container.ofJson? =
        some pod.containers ∧
      (listItems (object.at? (volumesPath kind))).mapM Volume.ofJson? =
        some (pod.volumes.getD []) := by
  obtain ⟨v, found, read⟩ := legible.at?_pod
  obtain ⟨⟨fields, isObject⟩, containers, volumes⟩ := PodSpec.lists_of_ofJson? read
  have below (key : String) : object.at? (kind.podPath ++ ["spec", key]) = v.get? key := by
    rw [List.append_cons, at?_append, found, Option.bind_some, at?_cons,
      child?_of_fields? isObject]
    simp
  refine ⟨⟨fields, ?_⟩, ?_, ?_⟩
  · rw [found, eq_object_of_fields? isObject]
  · unfold containersPath
    rw [below, mapM_listItems containers]
  · unfold volumesPath
    rw [below, mapM_listItems volumes]

end AdmittedObject.Legible

/-! ### The parts of a patch -/

/-- The places of a workload that belong to its gateway. -/
def gatewayPlaces (kind : WorkloadKind) : List Pointer :=
  [PatchOperation.annotationsPath ++ [WellKnown.serviceNameAnnotation],
    PatchOperation.annotationsPath ++ [WellKnown.configMapNameAnnotation],
    containersPath kind, volumesPath kind]

/-- A workload in which nothing changed but what belongs to its gateway. -/
structure ChangesOnlyGateway (kind : WorkloadKind) (names : SidecarNames) (before after : Json) :
    Prop where
  /-- At most one container was added, or the first one with the gateway's name replaced. -/
  container : ListPut names.container (before.at? (containersPath kind))
    (after.at? (containersPath kind))
  /-- At most one volume was added, or the first one with the gateway's name replaced. -/
  volume : ListPut WellKnown.configVolume (before.at? (volumesPath kind))
    (after.at? (volumesPath kind))
  /-- Everything else is the same, except for the two annotations that record names. -/
  outside : SameOutside (gatewayPlaces kind) before after

/-- A patch that puts at most one item of some name into a list. -/
inductive Patch.Puts (list : Pointer) (name : String) (before : Option Json) : Patch → Prop
  /-- Nothing is put there. -/
  | nothing : Puts list name before []
  /-- The item goes behind all others, whatever their names are. -/
  | behind {new : Json} (named : new.itemName = name) :
      Puts list name before [.upsert list none (listItems before).length new]
  /-- The item goes in place of the first one of its name, or behind all others. -/
  | first {new : Json} (named : new.itemName = name) :
      Puts list name before
        [.upsert list ((listItems before).findIdx? fun item => item.itemName = name)
          (listItems before).length new]

/-- A patch that changes no annotations but those that record names. -/
inductive Patch.Records (a : TextMap) : Patch → Prop
  /-- Nothing is changed. -/
  | nothing : Records a []
  /-- Names are recorded, or taken away. -/
  | names {recorded : TextMap} (only : ∀ key, key ≠ WellKnown.serviceNameAnnotation →
      key ≠ WellKnown.configMapNameAnnotation → recorded.get? key = none) :
      Records a [.setAnnotations (some a) recorded]

variable {object : Json} {place : Pointer} {key name : String} {fields : List (String × Json)}

/-- An item can be put into a list of an object below a value, and nothing else changes there. -/
theorem exists_upsert_at (named : place.Named) (found : object.at? place = some (.object fields))
    (index : Option Nat)
    (inside : ∀ i ∈ index, i < (listItems (object.at? (place ++ [key]))).length) (new : Json) :
    ∃ object', (PatchOperation.upsert (place ++ [key]) index
        (listItems (object.at? (place ++ [key]))).length new).apply object = some object' ∧
      object'.at? (place ++ [key]) =
        some (.array (upserted index new (listItems (object.at? (place ++ [key]))))) ∧
      SameOutside [place ++ [key]] object object' := by
  have field : object.at? (place ++ [key]) = (Json.object fields).get? key := by
    rw [at?_append, found, Option.bind_some, at?_cons, child?_of_fields? rfl]
    simp
  rw [field] at inside ⊢
  obtain ⟨v, changed, edited⟩ := exists_putItem rfl inside new
  obtain ⟨object', modified, stands, same⟩ := exists_modify?_at _ named found changed
    (edited.sameOutside_field rfl) (List.cons_ne_nil [key] [])
  obtain ⟨fields', isObject⟩ := edited.isObject
  refine ⟨object', ?_, ?_, same⟩
  · rw [PatchOperation.apply_upsert, modified]
  · rw [at?_append, stands, Option.bind_some, at?_cons, child?_of_fields? isObject, edited.here]
    rfl

/-- A patch that puts an item into a list can be applied wherever there is an object for the list.
-/
theorem Patch.Puts.exists_apply {list : Pointer} {p : Patch}
    (puts : Puts list name (object.at? list) p) (stands : list = place ++ [key])
    (named : place.Named) (found : object.at? place = some (.object fields)) :
    ∃ object', p.apply object = some object' ∧
      ListPut name (object.at? list) (object'.at? list) ∧ SameOutside [list] object object' := by
  subst stands
  cases puts with
  | nothing => exact ⟨object, rfl, .kept, .refl _ _⟩
  | behind item =>
    obtain ⟨object', applied, stands, same⟩ :=
      exists_upsert_at named found none (fun _ impossible => by cases impossible) _
    refine ⟨object', Patch.apply_single applied, ?_, same⟩
    rw [stands]
    exact .appended item
  | first item =>
    obtain ⟨object', applied, stands, same⟩ := exists_upsert_at named found _ lt_of_findIdx? _
    refine ⟨object', Patch.apply_single applied, ?_, same⟩
    rw [stands]
    unfold upserted
    split
    · next index there => exact .replaced item there
    · exact .appended item

/-- Recording names changes no other annotations. -/
theorem sameOutside_updateAnnotations {v : Json} {a recorded : TextMap}
    (read : readTextMap v = some a) (only : ∀ key, key ≠ WellKnown.serviceNameAnnotation →
      key ≠ WellKnown.configMapNameAnnotation → recorded.get? key = none) :
    SameOutside [[WellKnown.serviceNameAnnotation], [WellKnown.configMapNameAnnotation]] v
      (ofTextMap (PatchOperation.updateAnnotations a recorded)) := by
  obtain ⟨pairs, isObject, -⟩ := fields_of_readTextMap read
  have keys : [WellKnown.serviceNameAnnotation, WellKnown.configMapNameAnnotation] ≠ [] :=
    List.cons_ne_nil _ _
  refine sameOutside_of_get? (congrArg fields? isObject) rfl keys fun key absent => ?_
  have unrecorded : recorded.get? key = none := by
    refine only key ?_ ?_
    · rintro rfl
      exact absent List.mem_cons_self
    · rintro rfl
      exact absent (List.mem_cons_of_mem _ List.mem_cons_self)
  rw [get?_of_readTextMap (readTextMap_ofTextMap _), get?_of_readTextMap read,
    get?_updateAnnotations, unrecorded]

theorem Patch.Records.exists_apply {v : Json} {a : TextMap} {p : Patch} (records : Records a p)
    (found : object.at? PatchOperation.annotationsPath = some v) (read : readTextMap v = some a) :
    ∃ object', p.apply object = some object' ∧
      SameOutside [PatchOperation.annotationsPath ++ [WellKnown.serviceNameAnnotation],
        PatchOperation.annotationsPath ++ [WellKnown.configMapNameAnnotation]] object object' := by
  cases records with
  | nothing => exact ⟨object, rfl, .refl _ _⟩
  | @names recorded only =>
    have named : Pointer.Named PatchOperation.annotationsPath := by
      unfold Pointer.Named PatchOperation.annotationsPath
      decide
    obtain ⟨object', modified, -, same⟩ := exists_modify?_at
      (fun _ => some (ofTextMap (PatchOperation.updateAnnotations a recorded))) named found rfl
      (sameOutside_updateAnnotations read only) (List.cons_ne_nil _ _)
    exact ⟨object', Patch.apply_single modified, same⟩

/-! ### Patches of workloads -/

variable {kind : WorkloadKind} {metadata : Metadata} {pod : PodSpec} {names : SidecarNames}
  {a : TextMap}

/-- The places of a gateway in a workload lie apart from one another. -/
theorem gatewayPlaces_apart (kind : WorkloadKind) :
    (volumesPath kind).Apart (containersPath kind) ∧
      ∀ p ∈ [PatchOperation.annotationsPath,
          PatchOperation.annotationsPath ++ [WellKnown.serviceNameAnnotation],
          PatchOperation.annotationsPath ++ [WellKnown.configMapNameAnnotation]],
        p.Apart (containersPath kind) ∧ p.Apart (volumesPath kind) := by
  unfold Pointer.Apart volumesPath containersPath PatchOperation.annotationsPath
  cases kind <;> decide

theorem named_podPath (kind : WorkloadKind) : (kind.podPath ++ ["spec"]).Named := by
  unfold Pointer.Named
  cases kind <;> decide

theorem volumesPath_eq (kind : WorkloadKind) :
    volumesPath kind = (kind.podPath ++ ["spec"]) ++ ["volumes"] := by
  unfold volumesPath
  simp

theorem containersPath_eq (kind : WorkloadKind) :
    containersPath kind = (kind.podPath ++ ["spec"]) ++ ["containers"] := by
  unfold containersPath
  simp

/-- A patch of such parts can be applied, and nothing changes but what belongs to the gateway. -/
theorem exists_changed (legible : AdmittedObject.Legible kind object metadata pod)
    (annotated : metadata.annotations = some a) {p q r : Patch}
    (volume : Patch.Puts (volumesPath kind) WellKnown.configVolume
      (object.at? (volumesPath kind)) p)
    (container : Patch.Puts (containersPath kind) names.container
      (object.at? (containersPath kind)) q)
    (records : Patch.Records a r) :
    ∃ object', Patch.apply (p ++ (q ++ r)) object = some object' ∧
      ChangesOnlyGateway kind names object object' := by
  obtain ⟨⟨fields, found⟩, -, -⟩ := legible.lists
  obtain ⟨v, annotations, read⟩ := AdmittedObject.at?_annotations legible annotated
  obtain ⟨lists, apart⟩ := gatewayPlaces_apart kind
  have named := named_podPath kind
  have apartHere := apart PatchOperation.annotationsPath (by simp)
  -- The volume is put into the workload as it was submitted.
  obtain ⟨o₁, applied₁, put₁, same₁⟩ := volume.exists_apply (volumesPath_eq kind) named found
  have notAbove : ∀ changed ∈ [volumesPath kind], ¬changed <+: kind.podPath ++ ["spec"] := by
    simp [volumesPath_eq]
  obtain ⟨fields₁, found₁⟩ := same₁.objects _ fields notAbove found
  have containers₁ : o₁.at? (containersPath kind) = object.at? (containersPath kind) :=
    same₁.elsewhere _ (by simpa using lists)
  have annotations₁ : o₁.at? PatchOperation.annotationsPath = some v :=
    (same₁.elsewhere _ (by simpa using apartHere.2.symm)).trans annotations
  -- The container finds its list as it was.
  rw [← containers₁] at container
  obtain ⟨o₂, applied₂, put₂, same₂⟩ := container.exists_apply (containersPath_eq kind) named found₁
  have volumes₂ : o₂.at? (volumesPath kind) = o₁.at? (volumesPath kind) :=
    same₂.elsewhere _ (by simpa using lists.symm)
  have annotations₂ : o₂.at? PatchOperation.annotationsPath = some v :=
    (same₂.elsewhere _ (by simpa using apartHere.1.symm)).trans annotations₁
  -- The names are recorded last.
  obtain ⟨o₃, applied₃, same₃⟩ := records.exists_apply annotations₂ read
  have containers₃ : o₃.at? (containersPath kind) = o₂.at? (containersPath kind) :=
    same₃.elsewhere _ fun changed mem => (apart changed (List.mem_cons_of_mem _ mem)).1
  have volumes₃ : o₃.at? (volumesPath kind) = o₂.at? (volumesPath kind) :=
    same₃.elsewhere _ fun changed mem => (apart changed (List.mem_cons_of_mem _ mem)).2
  refine ⟨o₃, ?_, ?_, ?_, ?_⟩
  · exact (Patch.apply_append applied₁).trans ((Patch.apply_append applied₂).trans applied₃)
  · rw [containers₃, ← containers₁]
    exact put₂
  · rw [volumes₃, volumes₂]
    exact put₁
  · refine ((same₁.mono ?_).trans (same₂.mono ?_)).trans (same₃.mono ?_)
    · simp [gatewayPlaces]
    · simp [gatewayPlaces]
    · simp [gatewayPlaces]

/-- The container of a gateway is written with its name. -/
theorem itemName_sidecar {container : Container}
    (rendered : sidecarContainer names a = .ok container) :
    container.toJson.itemName = names.container := by
  rw [Container.itemName (Container.ofJson?_toJson_sidecar rendered),
    name_of_sidecarContainer rendered]

/-- The patch of a new workload puts a volume and a container behind all others. -/
theorem createPatch_changes (legible : AdmittedObject.Legible kind object metadata pod)
    (annotated : metadata.annotations = some a) {service : Option String} {configMap : String}
    {patch : Patch}
    (patched : createPatch kind ⟨some a, pod⟩ names service configMap = .ok patch) :
    ∃ object', patch.apply object = some object' ∧
      ChangesOnlyGateway kind names object object' := by
  obtain ⟨-, containers, volumes⟩ := legible.lists
  unfold createPatch at patched
  cases rendered : sidecarContainer names (AdmittedObject.allAnnotations ⟨some a, pod⟩) with
  | error e =>
    rw [rendered] at patched
    cases patched
  | ok container =>
    rw [rendered] at patched
    cases patched
    have volume : Patch.Puts (volumesPath kind) WellKnown.configVolume
        (object.at? (volumesPath kind))
        [.append (volumesPath kind) (pod.volumes.getD []).length
          (configVolume configMap).toJson] := by
      rw [← length_of_mapM volumes]
      exact .behind (Volume.itemName (Volume.ofJson?_toJson_config configMap))
    have container : Patch.Puts (containersPath kind) names.container
        (object.at? (containersPath kind))
        [.append (containersPath kind) pod.containers.length container.toJson] := by
      rw [← length_of_mapM containers]
      exact .behind (itemName_sidecar rendered)
    have records : Patch.Records a [.setAnnotations (some a) (injectedNames service configMap)] :=
      .names fun key notService notConfigMap =>
        get?_injectedNames_of_ne notService notConfigMap service configMap
    exact exists_changed legible annotated volume container records

/-- The patch of a changed workload replaces its volume and its container, or puts them behind all
others, and does so only with parts that were made anew. -/
theorem updatePatch_changes (legible : AdmittedObject.Legible kind object metadata pod)
    (annotated : metadata.annotations = some a) {container : Container}
    (rendered : sidecarContainer names a = .ok container) {scope : UpdateScope}
    {service made configMap : Option String} {patch : Patch}
    (patched : updatePatch kind ⟨some a, pod⟩ names scope configMap
      (recordedNames scope service made) = .ok patch) :
    ∃ object', patch.apply object = some object' ∧
      ChangesOnlyGateway kind names object object' := by
  obtain ⟨-, containers, volumes⟩ := legible.lists
  rw [updatePatch_eq rendered] at patched
  cases patched
  have volume : Patch.Puts (volumesPath kind) WellKnown.configVolume
      (object.at? (volumesPath kind)) (volumeUpdate kind ⟨some a, pod⟩ scope configMap) := by
    unfold volumeUpdate
    cases scope.config with
    | false => exact .nothing
    | true =>
      cases configMap with
      | none => exact .nothing
      | some configMap =>
        have first : (pod.volumes.getD []).findIdx? (fun v => v.name = WellKnown.configVolume) =
            (listItems (object.at? (volumesPath kind))).findIdx?
              (fun item => item.itemName = WellKnown.configVolume) :=
          (findIdx?_of_mapM volumes fun item volume read => by rw [Volume.itemName read]).symm
        unfold AdmittedObject.volumes
        dsimp only
        rw [first, ← length_of_mapM volumes]
        exact .first (Volume.itemName (Volume.ofJson?_toJson_config configMap))
  have container : Patch.Puts (containersPath kind) names.container
      (object.at? (containersPath kind))
      [.upsert (containersPath kind)
        (pod.containers.findIdx? fun c => c.name = names.container) pod.containers.length
        container.toJson] := by
    have first : pod.containers.findIdx? (fun c => c.name = names.container) =
        (listItems (object.at? (containersPath kind))).findIdx?
          (fun item => item.itemName = names.container) :=
      (findIdx?_of_mapM containers fun item container read => by
        rw [Container.itemName read]).symm
    rw [first, ← length_of_mapM containers]
    exact .first (itemName_sidecar rendered)
  have records : Patch.Records a
      (recordingPatch ⟨some a, pod⟩ (recordedNames scope service made)) := by
    unfold recordingPatch
    split
    · exact .nothing
    · exact .names fun key notService notConfigMap =>
        get?_recordedNames_of_ne notService notConfigMap scope service made
  split
  · rw [List.append_assoc]
    exact exists_changed legible annotated volume container records
  · exact exists_changed legible annotated .nothing .nothing records

/-! ### Patches of reviews -/

variable {P : Platform} {ns : String} {c c' : Cluster} {t : Transcript} {patch : Patch}
  {target : AdmittedObject}

/-- A workload with an object for its pod is read with that pod. -/
theorem AdmittedObject.legible_of_decode (decoded : decode kind object = .ok target)
    (present : object.at? (kind.podPath ++ ["spec"]) = some (.object fields)) :
    ∃ metadata, Legible kind object metadata target.pod ∧
      metadata.annotations = target.annotations := by
  obtain ⟨metadata, pod, read, rfl⟩ := parts?_of_decode decoded
  -- A change that keeps an object can be made there, and could not be made of null.
  obtain ⟨object', modified, -, -⟩ := exists_modify?_at (fun v => v.fields?.map .object)
    (named_podPath kind) present rfl (.refl [[]] _) (List.cons_ne_nil [] [])
  obtain ⟨found, rfl⟩ := exists_pod_of_modify rfl read modified
  exact ⟨metadata, read, rfl⟩

theorem Injects.changes (injects : Injects P kind name ns target c t patch c')
    (decoded : AdmittedObject.decode kind object = .ok target)
    (present : object.at? (kind.podPath ++ ["spec"]) = some (.object fields)) :
    ∃ object', patch.apply object = some object' ∧
      ChangesOnlyGateway kind (SidecarNames.ofWorkload name kind) object object' := by
  obtain ⟨metadata, legible, same⟩ := AdmittedObject.legible_of_decode decoded present
  obtain ⟨annotations, pod⟩ := target
  cases injects with
  | intro valid sourced offered written patched =>
    obtain ⟨a, annotated⟩ := annotated_of_validate valid
    cases annotated
    exact createPatch_changes legible same patched

theorem Refreshes.changes {previous : TextMap}
    (refreshes : Refreshes P kind name ns target previous c t patch c')
    (decoded : AdmittedObject.decode kind object = .ok target)
    (present : object.at? (kind.podPath ++ ["spec"]) = some (.object fields)) :
    ∃ object', patch.apply object = some object' ∧
      ChangesOnlyGateway kind (SidecarNames.ofWorkload name kind) object object' := by
  obtain ⟨metadata, legible, same⟩ := AdmittedObject.legible_of_decode decoded present
  obtain ⟨annotations, pod⟩ := target
  obtain ⟨valid, -, -, -, patched, -, -⟩ := refreshes
  obtain ⟨a, annotated⟩ := annotated_of_validate valid
  cases annotated
  obtain ⟨container, rendered⟩ := sidecarContainer_of_validate valid
    (SidecarNames.ofWorkload name kind)
  exact updatePatch_changes legible same rendered patched

/-- **A patch touches nothing but the gateway.**  Whatever the fields of a submitted workload are
and whatever is refused meanwhile, the patch of its review can be applied to it where there is an
object for its pod.  After it, the workload is what was submitted but for the two annotations that
record names, one container and one volume. -/
theorem patch_changes_only_gateway {request : AdmissionRequest}
    (known : WorkloadKind.ofName? request.kind = some kind)
    (submitted : request.object = some object)
    (present : object.at? (kind.podPath ++ ["spec"]) = some (.object fields))
    (run : (review request).run.Yields P.Answers c t (.ok (.patch patch)) c') :
    ∃ object', patch.apply object = some object' ∧
      ChangesOnlyGateway kind (SidecarNames.ofWorkload request.name kind) object object' := by
  obtain ⟨object, target, submitted', decoded, injects | ⟨_, _, -, -, refreshes⟩⟩ :=
    review_patched known run
  · cases submitted.symm.trans submitted'
    exact injects.changes decoded present
  · cases submitted.symm.trans submitted'
    exact refreshes.changes decoded present

/-! ### A workload with a container of its own -/

/-- A workload that asks for a gateway, has a container of its own, and says that it has no
volumes. -/
def occupiedWorkload : Json :=
  .object
    [("metadata", .object
      [("annotations",
        .object (gatewaySettings.map fun s => (WellKnown.vendorPrefix ++ s.1, .string s.2)))]),
    ("spec", .object [("template", .object [("spec", .object
      [("volumes", .null), ("containers", .array [.object [("name", .string "app")]])])])])]

theorem legible_occupiedWorkload :
    AdmittedObject.Legible .deployment occupiedWorkload
      { annotations := some gatewayAnnotations } ⟨[{ name := "app" }], none, none, none⟩ := by
  unfold AdmittedObject.Legible
  decide +kernel

/-- Such a workload gets a patch, which touches nothing but the gateway. -/
theorem occupiedWorkload_keeps_container : ∃ t patch c' object',
    (review { requestForGateway with object := some occupiedWorkload }).run.Yields
        secludedPlatform.Answers {} t (.ok (.patch patch)) c' ∧
      patch.apply occupiedWorkload = some object' ∧
      ChangesOnlyGateway .deployment (.ofWorkload "edge" .deployment) occupiedWorkload object' := by
  -- The request stays a name, as its review would be unfolded otherwise.
  obtain ⟨request, asked⟩ : ∃ request,
      request = { requestForGateway with object := some occupiedWorkload } := ⟨_, rfl⟩
  obtain ⟨entries, valid, sourced⟩ := sourced_gatewayWorkload
  obtain ⟨t, r, c', run⟩ := Program.exists_yields secludedPlatform.total (review request).run {}
  obtain ⟨patch, rfl, -⟩ :=
    review_injects asked legible_occupiedWorkload (by decide +kernel) valid sourced run
  have known : WorkloadKind.ofName? request.kind = some .deployment := asked ▸ rfl
  have named : request.name = "edge" := asked ▸ rfl
  have submitted : request.object = some occupiedWorkload := asked ▸ rfl
  obtain ⟨object', applied, changes⟩ :=
    patch_changes_only_gateway known submitted rfl run
  rw [named] at changes
  rw [← asked]
  exact ⟨t, patch, c', object', run, applied, changes⟩

end GatewayOperator
