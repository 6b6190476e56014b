import GatewayOperator.Proofs.Injection.Flows
import GatewayOperator.Proofs.Injection.RecordedNames
import GatewayOperator.Proofs.Json.Reading

/-!
# Workloads with a patch applied

A workload is stored with its patch applied.  This module says what is then read from it: the
annotations, containers and volumes that the patch was made for, and everything else as before.

## Main Definitions

* `upserted` — a list with an item put in place of another one, or at its end.
* `AdmittedObject.Legible` — an object from which metadata and a pod can be read.

## Main Statements

* `Container.ofJson?_toJson_sidecar` — the container of a gateway is read as it was written.
* `exists_upsertVolume`, `exists_upsertContainer`, `exists_setAnnotations` — each operation can be
  applied, and changes what is read in one place.
* `apply_createPatch`, `apply_updatePatch` — so can the patches of an injection and of a renewal.
-/

namespace GatewayOperator

open Json

/-! ### What is put into a workload -/

/-- The volume of a gateway is read as it was written. -/
theorem Volume.ofJson?_toJson_config (name : String) :
    Volume.ofJson? (configVolume name).toJson = some (configVolume name) :=
  rfl

/-- The environment of a gateway is read as it was written. -/
theorem readList_env (pairs : List (String × String)) :
    readList EnvVar.ofJson? (ofList EnvVar.toJson (pairs.map fun v => ⟨v.1, some v.2⟩)) =
      some (pairs.map fun v => ⟨v.1, some v.2⟩) := by
  have each : ((pairs.map fun v => (⟨v.1, some v.2⟩ : EnvVar)).map EnvVar.toJson).mapM
      EnvVar.ofJson? = some (pairs.map fun v => ⟨v.1, some v.2⟩) := by
    refine mapM_map_of_forall fun value mem => ?_
    obtain ⟨v, -, rfl⟩ := List.mem_map.mp mem
    rfl
  unfold readList ofList items?
  rw [Option.bind_some, each]

/-- The container of a gateway is read as it was written. -/
theorem Container.ofJson?_toJson_sidecar {names : SidecarNames} {a : TextMap}
    {container : Container} (rendered : sidecarContainer names a = .ok container) :
    Container.ofJson? container.toJson = some container := by
  unfold sidecarContainer at rendered
  split at rendered
  · cases rendered
  · next image named =>
    cases rendered
    unfold sidecarEnv
    split
    · rfl
    · -- Everything but the environment is read by computation.
      have env : Json.optional (readList EnvVar.ofJson?)
          (some (ofList EnvVar.toJson ((Annotations.env a).map fun v => ⟨v.1, some v.2⟩))) =
            some (some ((Annotations.env a).map fun v => ⟨v.1, some v.2⟩)) :=
        congrArg (Option.map some) (readList_env _)
      unfold Container.ofJson?
      simp only [Option.bind_eq_bind, Option.bind_eq_some_iff]
      exact ⟨_, rfl, _, rfl, _, rfl, _, rfl, _, env, _, rfl, _, rfl, _, rfl, _, rfl, rfl⟩

theorem name_of_sidecarContainer {names : SidecarNames} {a : TextMap} {container : Container}
    (rendered : sidecarContainer names a = .ok container) : container.name = names.container := by
  unfold sidecarContainer at rendered
  split at rendered
  · cases rendered
  · cases rendered
    rfl

/-! ### Lists in objects -/

/-- A list with an item put in place of another one, or at its end. -/
def upserted {α : Type} (index : Option Nat) (value : α) (values : List α) : List α :=
  match index with
  | some index => values.set index value
  | none => values ++ [value]

/-- Where the first item of a kind is replaced, it stands before what were the others of that
kind. -/
theorem filter_upserted {α : Type} {p : α → Bool} {value : α} (kind : p value = true)
    (items : List α) :
    (upserted (items.findIdx? p) value items).filter p = value :: (items.filter p).tail := by
  induction items with
  | nil => exact List.filter_cons_of_pos kind
  | cons item rest ih =>
    rw [List.findIdx?_cons]
    split
    · next same =>
      rw [List.filter_cons_of_pos same]
      exact List.filter_cons_of_pos kind
    · next other =>
      have shifted : upserted ((rest.findIdx? p).map (· + 1)) value (item :: rest) =
          item :: upserted (rest.findIdx? p) value rest := by
        cases rest.findIdx? p <;> rfl
      rw [shifted, List.filter_cons_of_neg other, ih, List.filter_cons_of_neg other]

/-- The change of an object that puts an item into a list under a key. -/
def upsertChange (key : String) (index : Option Nat) (length : Nat) (new value : Json) :
    Option Json :=
  match index with
  | some index => value.modify? (fun _ => some new) [key, toString index]
  | none =>
    if length = 0 then value.addChild? key (.array [new])
    else value.modify? (fun list => list.addChild? endKey new) [key]

/-- An item is put into a list by a change of the object that holds the list. -/
theorem PatchOperation.apply_upsert (place : Pointer) (key : String) (index : Option Nat)
    (length : Nat) (new object : Json) :
    (PatchOperation.upsert (place ++ [key]) index length new).apply object =
      object.modify? (upsertChange key index length new) place := by
  cases index with
  | some index =>
    unfold PatchOperation.upsert PatchOperation.replaceAt PatchOperation.apply replace?
    dsimp only
    rw [List.append_assoc, modify?_append]
    rfl
  | none =>
    unfold PatchOperation.upsert PatchOperation.append
    dsimp only
    -- The first item comes with a list of its own.
    split
    · next empty =>
      unfold PatchOperation.apply
      dsimp only
      rw [add?_append_single]
      unfold upsertChange
      simp only [if_pos empty]
    · next filled =>
      unfold PatchOperation.apply
      dsimp only
      rw [add?_append_single, modify?_append]
      unfold upsertChange
      simp only [if_neg filled]

/-- The items of a list in an object; a list that is absent or null has none. -/
def Json.listItems : Option Json → List Json
  | some (.array items) => items
  | _ => []

/-- What is read from a list is read from its items. -/
theorem Json.mapM_listItems {α : Type} {read : Read α} {field : Option Json} {values : List α}
    (listed : lenient [] (readList read) field = some values) :
    (listItems field).mapM read = some values := by
  unfold lenient at listed
  split at listed
  · cases listed
    rfl
  · cases listed
    rfl
  · next list _ =>
    obtain ⟨items, isArray, mapped⟩ := Option.bind_eq_some_iff.mp listed
    cases list with
    | array items' =>
      cases isArray
      exact mapped
    | _ => cases isArray

/-- An item can be put into a list under a key of an object. -/
theorem exists_putItem {v : Json} {fields : List (String × Json)} {key : String}
    {index : Option Nat} (object : v.fields? = some fields)
    (inside : ∀ i ∈ index, i < (listItems (v.get? key)).length) (new : Json) :
    ∃ v', upsertChange key index (listItems (v.get? key)).length new v = some v' ∧
      Edited key (.array (upserted index new (listItems (v.get? key)))) v v' := by
  -- A list with items is there.
  have array (filled : (listItems (v.get? key)).length ≠ 0) :
      v.get? key = some (.array (listItems (v.get? key))) := by
    unfold listItems at filled ⊢
    split
    · next found => exact found
    · next unlisted =>
      split at filled
      · next found => exact absurd found (unlisted _)
      · exact absurd rfl filled
  unfold upsertChange upserted
  cases index with
  | some i =>
    have bound := inside i rfl
    exact exists_modify? object (array (by omega)) (modify?_item bound new)
  | none =>
    dsimp only
    split
    · next empty =>
      -- An empty list is written as a whole, whether or not it was there.
      rw [List.eq_nil_of_length_eq_zero empty]
      exact exists_addChild? object key (.array [new])
    · next filled => exact exists_modify? object (array filled) (modify?_end _ new)

theorem mapM_upserted {α : Type} {read : Read α} {items : List Json} {values : List α} {new : Json}
    {value : α} (mapped : items.mapM read = some values) (item : read new = some value)
    (index : Option Nat) :
    (upserted index new items).mapM read = some (upserted index value values) := by
  cases index with
  | none => exact mapM_append_single mapped item
  | some i => exact mapM_set mapped item i

/-- An item can be put into a list, which is then read with its value. -/
theorem exists_upsertChange {α : Type} {read : Read α} {values : List α} {value : α}
    {v new : Json} {fields : List (String × Json)} {key : String} {index : Option Nat}
    (object : v.fields? = some fields)
    (listed : lenient [] (readList read) (v.get? key) = some values)
    (inside : ∀ i ∈ index, i < values.length) (item : read new = some value) :
    ∃ v' items, upsertChange key index values.length new v = some v' ∧
      Edited key (.array items) v v' ∧ items.mapM read = some (upserted index value values) := by
  have mapped := mapM_listItems listed
  rw [← length_of_mapM mapped] at inside ⊢
  obtain ⟨v', changed, edited⟩ := exists_putItem object inside new
  exact ⟨v', _, changed, edited, mapM_upserted mapped item index⟩

/-- Nothing can be put into null. -/
theorem upsertChange_null (key : String) (index : Option Nat) (length : Nat) (new : Json) :
    upsertChange key index length new .null = none := by
  unfold upsertChange
  cases index with
  | some index => exact modify?_null _ _ _
  | none =>
    dsimp only
    split <;> rfl

/-- The containers and volumes of a pod are read from two lists of an object; a list that is absent
or null is read like an empty one. -/
theorem PodSpec.lists_of_ofJson? {v : Json} {pod : PodSpec}
    (read : PodSpec.ofJson? v = some pod) :
    (∃ fields, v.fields? = some fields) ∧
      lenient [] (readList Container.ofJson?) (v.get? "containers") = some pod.containers ∧
      lenient [] (readList Volume.ofJson?) (v.get? "volumes") = some (pod.volumes.getD []) := by
  unfold PodSpec.ofJson? at read
  simp only [Option.bind_eq_bind, Option.bind_eq_some_iff] at read
  obtain ⟨fields, isObject, containers, hcontainers, volumes, hvolumes, _, -, _, -, same⟩ := read
  cases same
  refine ⟨⟨fields, isObject⟩, hcontainers, ?_⟩
  unfold Json.optional at hvolumes
  unfold lenient
  split at hvolumes
  · cases hvolumes
    rfl
  · cases hvolumes
    rfl
  · obtain ⟨_, listed, same⟩ := Option.map_eq_some_iff.mp hvolumes
    cases same
    exact listed

/-! ### Workloads -/

/-- An object from which metadata and a pod can be read. -/
def AdmittedObject.Legible (kind : WorkloadKind) (object : Json) (metadata : Metadata)
    (pod : PodSpec) : Prop :=
  AdmittedObject.parts? kind object = some (metadata, some pod)

/-- What was looked at of a workload was read from it. -/
theorem AdmittedObject.parts?_of_decode {kind : WorkloadKind} {object : Json}
    {target : AdmittedObject} (decoded : decode kind object = .ok target) :
    ∃ metadata pod, parts? kind object = some (metadata, pod) ∧
      target = ⟨metadata.annotations, pod.getD .empty⟩ := by
  unfold decode at decoded
  split at decoded
  · next metadata pod read =>
    cases decoded
    exact ⟨metadata, pod, read, rfl⟩
  · cases decoded

theorem AdmittedObject.decode_of_parts? {kind : WorkloadKind} {object : Json} {metadata : Metadata}
    {pod : Option PodSpec} (read : parts? kind object = some (metadata, pod)) :
    decode kind object = .ok ⟨metadata.annotations, pod.getD .empty⟩ := by
  unfold decode
  rw [read]

variable {kind : WorkloadKind} {object : Json} {metadata : Metadata} {pod pod' : PodSpec}

/-- What is read of a workload is read from the metadata in it. -/
theorem AdmittedObject.metadata_of_parts? {pod : Option PodSpec}
    (read : AdmittedObject.parts? kind object = some (metadata, pod)) :
    (∃ fields, object.fields? = some fields) ∧
      lenient {} Metadata.ofJson? (object.get? "metadata") = some metadata := by
  cases kind with
  | pod =>
    obtain ⟨p, decoded, same⟩ := Option.map_eq_some_iff.mp read
    cases same
    obtain ⟨isObject, -, hmetadata, -⟩ := Pod.ofJson?_eq_some_iff.mp decoded
    exact ⟨isObject, hmetadata⟩
  | deployment =>
    obtain ⟨d, decoded, same⟩ := Option.map_eq_some_iff.mp read
    obtain ⟨rfl, -⟩ := Prod.mk.injEq .. ▸ same
    obtain ⟨isObject, -, hmetadata, -⟩ := Deployment.ofJson?_eq_some_iff.mp decoded
    exact ⟨isObject, hmetadata⟩

/-- The annotations that are read of a workload stand in its metadata. -/
theorem AdmittedObject.at?_annotations {pod : Option PodSpec}
    (read : AdmittedObject.parts? kind object = some (metadata, pod)) {a : TextMap}
    (annotated : metadata.annotations = some a) :
    ∃ v, object.at? PatchOperation.annotationsPath = some v ∧ readTextMap v = some a := by
  obtain ⟨⟨fields, isObject⟩, hmetadata⟩ := metadata_of_parts? read
  unfold lenient at hmetadata
  split at hmetadata
  · cases hmetadata
    cases annotated
  · cases hmetadata
    cases annotated
  · next m _ present =>
    obtain ⟨⟨_, metadataObject⟩, v, found, read⟩ :=
      Metadata.annotations_of_ofJson? hmetadata annotated
    refine ⟨v, ?_, read⟩
    unfold PatchOperation.annotationsPath
    simp [child?_of_fields? isObject, present, child?_of_fields? metadataObject, found]

/-- A change of the pod of a workload changes the pod that is read. -/
theorem exists_modifyPod {change : Json → Option Json}
    (legible : AdmittedObject.Legible kind object metadata pod)
    (below : ∀ v, PodSpec.ofJson? v = some pod →
      ∃ v', change v = some v' ∧ PodSpec.ofJson? v' = some pod') :
    ∃ object', object.modify? change (kind.podPath ++ ["spec"]) = some object' ∧
      AdmittedObject.Legible kind object' metadata pod' := by
  unfold AdmittedObject.Legible at legible ⊢
  cases kind with
  | pod =>
    obtain ⟨p, decoded, same⟩ := Option.map_eq_some_iff.mp legible
    obtain ⟨⟨fields, isObject⟩, -, -, hspec⟩ := Pod.ofJson?_eq_some_iff.mp decoded
    obtain ⟨_, spec⟩ := p
    cases same
    obtain ⟨v, found, read⟩ := optional_eq_some_some hspec
    obtain ⟨v', changed, read'⟩ := below v read
    obtain ⟨object', modified, edited⟩ := exists_modify? isObject found
      (show v.modify? change [] = some v' from changed)
    refine ⟨object', modified, ?_⟩
    unfold AdmittedObject.parts?
    dsimp only
    rw [Pod.ofJson?_spec edited decoded (optional_of_read rfl read')]
    rfl
  | deployment =>
    obtain ⟨d, decoded, same⟩ := Option.map_eq_some_iff.mp legible
    obtain ⟨⟨fields, isObject⟩, -, -, hspec⟩ := Deployment.ofJson?_eq_some_iff.mp decoded
    obtain ⟨_, spec⟩ := d
    cases spec with
    | none => cases same
    | some spec =>
      obtain ⟨rfl, carries⟩ := Prod.mk.injEq .. ▸ same
      obtain ⟨s, foundSpec, readSpec⟩ := optional_eq_some_some hspec
      obtain ⟨⟨_, specObject⟩, t, foundTemplate, readTemplate, ⟨_, templateObject⟩, v, found,
        read⟩ :=
        DeploymentSpec.reads readSpec carries
      -- The change is carried upwards, from the pod to its template and on to the workload.
      obtain ⟨v', changed, read'⟩ := below v read
      obtain ⟨t', modifiedTemplate, editedTemplate⟩ := exists_modify? templateObject found
        (show v.modify? change [] = some v' from changed)
      obtain ⟨s', modifiedSpec, editedSpec⟩ := exists_modify? specObject foundTemplate
        modifiedTemplate
      obtain ⟨object', modified, edited⟩ := exists_modify? isObject foundSpec modifiedSpec
      refine ⟨object', modified, ?_⟩
      have readTemplate' := PodTemplate.ofJson?_spec editedTemplate readTemplate
        (optional_of_read rfl read')
      have readSpec' := DeploymentSpec.ofJson?_template editedSpec readSpec
        (lenient_of_read rfl readTemplate')
      unfold AdmittedObject.parts?
      dsimp only
      rw [Deployment.ofJson?_spec edited decoded (optional_of_read rfl readSpec')]
      rfl

/-- Where the pod of a workload can be changed, there is one that can be read. -/
theorem exists_pod_of_modify {change : Json → Option Json} {object' : Json} {pod : Option PodSpec}
    (nothing : change .null = none)
    (read : AdmittedObject.parts? kind object = some (metadata, pod))
    (modified : object.modify? change (kind.podPath ++ ["spec"]) = some object') :
    ∃ found, pod = some found := by
  have notNull {v below : Json} (changed : change v = some below) : v ≠ .null := by
    rintro rfl
    rw [nothing] at changed
    cases changed
  have notNull' {v below : Json} {key : String} {rest : Pointer}
      (changed : v.modify? change (key :: rest) = some below) : v ≠ .null := by
    rintro rfl
    rw [modify?_null] at changed
    cases changed
  cases kind with
  | pod =>
    obtain ⟨p, decoded, same⟩ := Option.map_eq_some_iff.mp read
    obtain ⟨⟨fields, isObject⟩, -, -, hspec⟩ := Pod.ofJson?_eq_some_iff.mp decoded
    cases same
    obtain ⟨v, below, found, changed⟩ := below_of_modify? isObject modified
    rw [found] at hspec
    obtain ⟨pod, carries, -⟩ := read_of_optional (notNull changed) hspec
    exact ⟨pod, carries⟩
  | deployment =>
    obtain ⟨d, decoded, same⟩ := Option.map_eq_some_iff.mp read
    obtain ⟨⟨fields, isObject⟩, -, -, hspec⟩ := Deployment.ofJson?_eq_some_iff.mp decoded
    obtain ⟨rfl, rfl⟩ := Prod.mk.injEq .. ▸ same
    -- The way to the pod leads through the wishes and the template, and none of them is null.
    obtain ⟨s, below, found, changed⟩ := below_of_modify? isObject modified
    rw [found] at hspec
    obtain ⟨spec, carries, readSpec⟩ := read_of_optional (notNull' changed) hspec
    unfold DeploymentSpec.ofJson? at readSpec
    simp only [Option.bind_eq_bind, Option.bind_eq_some_iff] at readSpec
    obtain ⟨_, specObject, _, -, _, -, template, htemplate, same⟩ := readSpec
    obtain ⟨t, below, found, changed⟩ := below_of_modify? specObject changed
    rw [found] at htemplate
    have readTemplate := read_of_lenient (notNull' changed) htemplate
    unfold PodTemplate.ofJson? at readTemplate
    simp only [Option.bind_eq_bind, Option.bind_eq_some_iff] at readTemplate
    obtain ⟨_, templateObject, _, -, podSpec, hpod, same'⟩ := readTemplate
    obtain ⟨v, below, found, changed⟩ := below_of_modify? templateObject changed
    rw [found] at hpod
    obtain ⟨pod, rfl, -⟩ := read_of_optional (notNull changed) hpod
    cases same
    cases same'
    exact ⟨pod, by rw [Deployment.podSpec?, Deployment.template?, carries]; rfl⟩

/-- Where an item can be put into a list of a pod, there is a pod that can be read. -/
theorem exists_pod_of_upsert {key : String} {index : Option Nat} {length : Nat} {new object' : Json}
    {pod : Option PodSpec} (read : AdmittedObject.parts? kind object = some (metadata, pod))
    (applied : (PatchOperation.upsert (kind.podPath ++ ["spec", key]) index length new).apply
      object = some object') :
    ∃ found, pod = some found := by
  have path : kind.podPath ++ ["spec", key] = (kind.podPath ++ ["spec"]) ++ [key] := by
    rw [List.append_assoc]
    rfl
  rw [path, PatchOperation.apply_upsert] at applied
  exact exists_pod_of_modify (upsertChange_null key index length new) read applied

/-- A pod can get a volume, in place of another one or behind all others. -/
theorem exists_upsertVolume (legible : AdmittedObject.Legible kind object metadata pod)
    (index : Option Nat) (inside : ∀ i ∈ index, i < (pod.volumes.getD []).length) {new : Json}
    {volume : Volume} (item : Volume.ofJson? new = some volume) :
    ∃ object', (PatchOperation.upsert (volumesPath kind) index (pod.volumes.getD []).length
        new).apply object = some object' ∧
      AdmittedObject.Legible kind object' metadata
        { pod with volumes := some (upserted index volume (pod.volumes.getD [])) } := by
  have path : volumesPath kind = (kind.podPath ++ ["spec"]) ++ ["volumes"] := by
    unfold volumesPath
    rw [List.append_assoc]
    rfl
  rw [path, PatchOperation.apply_upsert]
  refine exists_modifyPod legible fun v read => ?_
  obtain ⟨⟨fields, isObject⟩, -, listed⟩ := PodSpec.lists_of_ofJson? read
  obtain ⟨v', items, changed, edited, mapped⟩ := exists_upsertChange isObject listed inside item
  refine ⟨v', changed, PodSpec.ofJson?_volumes edited read ?_⟩
  exact congrArg (Option.map some) mapped

/-- A pod can get a container, in place of another one or behind all others. -/
theorem exists_upsertContainer (legible : AdmittedObject.Legible kind object metadata pod)
    (index : Option Nat) (inside : ∀ i ∈ index, i < pod.containers.length) {new : Json}
    {container : Container} (item : Container.ofJson? new = some container) :
    ∃ object', (PatchOperation.upsert (containersPath kind) index pod.containers.length
        new).apply object = some object' ∧
      AdmittedObject.Legible kind object' metadata
        { pod with containers := upserted index container pod.containers } := by
  have path : containersPath kind = (kind.podPath ++ ["spec"]) ++ ["containers"] := by
    unfold containersPath
    rw [List.append_assoc]
    rfl
  rw [path, PatchOperation.apply_upsert]
  refine exists_modifyPod legible fun v read => ?_
  obtain ⟨⟨fields, isObject⟩, listed, -⟩ := PodSpec.lists_of_ofJson? read
  obtain ⟨v', items, changed, edited, mapped⟩ := exists_upsertChange isObject listed inside item
  exact ⟨v', changed, PodSpec.ofJson?_containers edited read mapped⟩

/-! ### Annotations -/

/-- The annotations of a workload that has some can be changed, whether or not it has a pod. -/
theorem exists_setAnnotations {pod : Option PodSpec}
    (read : AdmittedObject.parts? kind object = some (metadata, pod)) {a : TextMap}
    (annotated : metadata.annotations = some a) (recorded : TextMap) :
    ∃ object', (PatchOperation.setAnnotations (some a) recorded).apply object = some object' ∧
      AdmittedObject.parts? kind object' = some
        ({ metadata with annotations := some (PatchOperation.updateAnnotations a recorded) },
          pod) := by
  -- Metadata with annotations are there, and can be read with other annotations.
  have below (field : Option Json) (h : lenient {} Metadata.ofJson? field = some metadata) :
      ∃ m m', field = some m ∧
        m.modify? (fun _ => some (ofTextMap (PatchOperation.updateAnnotations a recorded)))
          ["annotations"] = some m' ∧
        Metadata.ofJson? m' = some
          { metadata with annotations := some (PatchOperation.updateAnnotations a recorded) } := by
    unfold lenient at h
    split at h
    · cases h
      cases annotated
    · cases h
      cases annotated
    · next m _ =>
      have read := h
      unfold Metadata.ofJson? at read
      simp only [Option.bind_eq_bind, Option.bind_eq_some_iff] at read
      obtain ⟨fields, isObject, _, -, _, -, _, -, _, -, _, -, _, -, _, -, annotations, hannotations,
        _, -, same⟩ := read
      cases same
      cases annotated
      obtain ⟨old, found, -⟩ := optional_eq_some_some hannotations
      obtain ⟨m', modified, edited⟩ := exists_modify? isObject found
        (show old.modify? (fun _ => some (ofTextMap (PatchOperation.updateAnnotations a recorded)))
          [] = some _ from rfl)
      refine ⟨m, m', rfl, modified, Metadata.ofJson?_annotations edited h ?_⟩
      exact optional_of_read rfl (readTextMap_ofTextMap _)
  unfold PatchOperation.setAnnotations PatchOperation.apply replace? PatchOperation.annotationsPath
  dsimp only [Option.getD_some]
  cases kind with
  | pod =>
    obtain ⟨p, decoded, same⟩ := Option.map_eq_some_iff.mp read
    obtain ⟨⟨fields, isObject⟩, -, hmetadata, -⟩ := Pod.ofJson?_eq_some_iff.mp decoded
    obtain ⟨_, spec⟩ := p
    cases same
    obtain ⟨m, m', found, changed, read'⟩ := below _ hmetadata
    obtain ⟨object', modified, edited⟩ := exists_modify? isObject found changed
    refine ⟨object', modified, ?_⟩
    unfold AdmittedObject.parts?
    dsimp only
    rw [Pod.ofJson?_metadata edited decoded (lenient_of_read rfl read')]
    rfl
  | deployment =>
    obtain ⟨d, decoded, same⟩ := Option.map_eq_some_iff.mp read
    obtain ⟨⟨fields, isObject⟩, -, hmetadata, -⟩ := Deployment.ofJson?_eq_some_iff.mp decoded
    obtain ⟨rfl, carries⟩ := Prod.mk.injEq .. ▸ same
    obtain ⟨m, m', found, changed, read'⟩ := below _ hmetadata
    obtain ⟨object', modified, edited⟩ := exists_modify? isObject found changed
    refine ⟨object', modified, ?_⟩
    unfold AdmittedObject.parts?
    dsimp only
    rw [Deployment.ofJson?_metadata edited decoded (lenient_of_read rfl read'), ← carries]
    rfl

/-! ### Patches -/

/-- A workload with valid settings has annotations. -/
theorem annotated_of_validate {target : AdmittedObject} {entries : List ConfigurationEntry}
    (valid : Annotations.validate target.allAnnotations = .ok entries) :
    ∃ a, target.annotations = some a := by
  obtain ⟨image, named⟩ := image_of_validate valid
  obtain ⟨_ | a, pod⟩ := target
  · cases named
  · exact ⟨a, rfl⟩

/-- A valid workload has annotations, and a container is rendered of them. -/
theorem rendered_of_validate {target : AdmittedObject} {entries : List ConfigurationEntry}
    (valid : Annotations.validate target.allAnnotations = .ok entries) (names : SidecarNames) :
    ∃ a pod container, target = ⟨some a, pod⟩ ∧ sidecarContainer names a = .ok container := by
  obtain ⟨a, annotated⟩ := annotated_of_validate valid
  obtain ⟨annotations, pod⟩ := target
  dsimp only at annotated
  subst annotated
  obtain ⟨container, rendered⟩ := sidecarContainer_of_validate valid names
  exact ⟨a, pod, container, rfl, rendered⟩

theorem Patch.apply_append {p q : Patch} {object object' : Json}
    (first : p.apply object = some object') : Patch.apply (p ++ q) object = q.apply object' := by
  unfold Patch.apply at first ⊢
  rw [List.foldlM_append, first]
  rfl

theorem Patch.apply_single {operation : PatchOperation} {object object' : Json}
    (applied : operation.apply object = some object') :
    Patch.apply [operation] object = some object' := by
  unfold Patch.apply
  rw [List.foldlM_cons, applied]
  rfl

/-- The patch of a new workload can be applied, and adds the container, the volume and the names. -/
theorem apply_createPatch (legible : AdmittedObject.Legible kind object metadata pod)
    {a : TextMap} (annotated : metadata.annotations = some a) {names : SidecarNames}
    {service : Option String} {configMap : String} {patch : Patch}
    (patched : createPatch kind ⟨some a, pod⟩ names service configMap = .ok patch) :
    ∃ container object', sidecarContainer names a = .ok container ∧
      patch.apply object = some object' ∧
      AdmittedObject.Legible kind object'
        { metadata with
          annotations := some
            (PatchOperation.updateAnnotations a (injectedNames service configMap)) }
        { pod with
          containers := pod.containers ++ [container]
          volumes := some (pod.volumes.getD [] ++ [configVolume configMap]) } := by
  unfold createPatch at patched
  cases rendered : sidecarContainer names a with
  | error e =>
    rw [show sidecarContainer names (AdmittedObject.allAnnotations ⟨some a, pod⟩) = .error e from
      rendered] at patched
    cases patched
  | ok container =>
    rw [show sidecarContainer names (AdmittedObject.allAnnotations ⟨some a, pod⟩) = .ok container
      from rendered] at patched
    cases patched
    -- The operations follow one another, so each is applied to what the last one left.
    obtain ⟨o₁, applied₁, legible₁⟩ := exists_upsertVolume legible none
      (fun _ impossible => by cases impossible) (Volume.ofJson?_toJson_config configMap)
    obtain ⟨o₂, applied₂, legible₂⟩ := exists_upsertContainer legible₁ none
      (fun _ impossible => by cases impossible) (Container.ofJson?_toJson_sidecar rendered)
    obtain ⟨o₃, applied₃, legible₃⟩ := exists_setAnnotations legible₂ annotated
      (injectedNames service configMap)
    refine ⟨container, o₃, rfl, ?_, legible₃⟩
    exact (Patch.apply_append (Patch.apply_single applied₁)).trans
      ((Patch.apply_append (Patch.apply_single applied₂)).trans (Patch.apply_single applied₃))

/-- The volumes of a pod whose parts were made anew. -/
def refreshedVolumes (scope : UpdateScope) (configMap : Option String)
    (volumes : Option (List Volume)) : Option (List Volume) :=
  match scope.config, configMap with
  | true, some configMap => some (upserted
      ((volumes.getD []).findIdx? fun v => v.name = WellKnown.configVolume)
      (configVolume configMap) (volumes.getD []))
  | _, _ => volumes

/-- A pod whose parts were made anew. -/
def refreshedPod (names : SidecarNames) (scope : UpdateScope) (configMap : Option String)
    (container : Container) (pod : PodSpec) : PodSpec :=
  if scope.container then
    { pod with
      volumes := refreshedVolumes scope configMap pod.volumes
      containers := upserted (pod.containers.findIdx? fun c => c.name = names.container) container
        pod.containers }
  else pod

/-- Volumes stay as they are with the configuration. -/
theorem volumes_refreshedPod {names : SidecarNames} {scope : UpdateScope}
    (kept : scope.config = false) (configMap : Option String) (container : Container)
    (pod : PodSpec) : (refreshedPod names scope configMap container pod).volumes = pod.volumes := by
  unfold refreshedPod refreshedVolumes
  rw [kept]
  split <;> rfl

theorem lt_of_findIdx? {α : Type} {p : α → Bool} {items : List α} :
    ∀ i ∈ items.findIdx? p, i < items.length := by
  intro i found
  obtain ⟨bound, -⟩ := List.findIdx?_eq_some_iff_getElem.mp found
  exact bound

theorem exists_volumeUpdate (legible : AdmittedObject.Legible kind object metadata pod)
    (annotations : Option TextMap) (scope : UpdateScope) (configMap : Option String) :
    ∃ object', (volumeUpdate kind ⟨annotations, pod⟩ scope configMap).apply object = some object' ∧
      AdmittedObject.Legible kind object' metadata
        { pod with volumes := refreshedVolumes scope configMap pod.volumes } := by
  unfold volumeUpdate refreshedVolumes
  cases scope.config with
  | false => exact ⟨object, rfl, legible⟩
  | true =>
    cases configMap with
    | none => exact ⟨object, rfl, legible⟩
    | some configMap =>
      obtain ⟨object', applied, legible'⟩ := exists_upsertVolume legible _ lt_of_findIdx?
        (Volume.ofJson?_toJson_config configMap)
      exact ⟨object', Patch.apply_single applied, legible'⟩

theorem exists_recordingPatch {pod : Option PodSpec}
    (read : AdmittedObject.parts? kind object = some (metadata, pod)) {a : TextMap}
    (annotated : metadata.annotations = some a) (seen : PodSpec) (recorded : TextMap) :
    ∃ object', (recordingPatch ⟨some a, seen⟩ recorded).apply object = some object' ∧
      AdmittedObject.parts? kind object' = some
        ({ metadata with annotations := some (PatchOperation.updateAnnotations a recorded) },
          pod) := by
  unfold recordingPatch
  split
  · next empty =>
    have nothing : PatchOperation.updateAnnotations a recorded = a := by
      unfold PatchOperation.updateAnnotations
      rw [List.isEmpty_iff.mp empty]
      rfl
    refine ⟨object, rfl, ?_⟩
    rw [nothing, ← annotated]
    exact read
  · obtain ⟨object', applied, read'⟩ := exists_setAnnotations read annotated recorded
    exact ⟨object', Patch.apply_single applied, read'⟩

/-- The patch of a changed workload can be applied, and replaces the parts that were made anew. -/
theorem apply_updatePatch (legible : AdmittedObject.Legible kind object metadata pod)
    {a : TextMap} (annotated : metadata.annotations = some a) {names : SidecarNames}
    {container : Container} (rendered : sidecarContainer names a = .ok container)
    {scope : UpdateScope} {configMap : Option String} {recorded : TextMap} {patch : Patch}
    (patched : updatePatch kind ⟨some a, pod⟩ names scope configMap recorded = .ok patch) :
    ∃ object', patch.apply object = some object' ∧
      AdmittedObject.Legible kind object'
        { metadata with annotations := some (PatchOperation.updateAnnotations a recorded) }
        (refreshedPod names scope configMap container pod) := by
  rw [updatePatch_eq rendered] at patched
  cases patched
  unfold refreshedPod
  cases scope.container with
  | false => exact exists_recordingPatch legible annotated pod recorded
  | true =>
    obtain ⟨o₁, applied₁, legible₁⟩ := exists_volumeUpdate legible (some a) scope configMap
    obtain ⟨o₂, applied₂, legible₂⟩ := exists_upsertContainer legible₁ _ lt_of_findIdx?
      (Container.ofJson?_toJson_sidecar rendered)
    obtain ⟨o₃, applied₃, legible₃⟩ := exists_recordingPatch legible₂ annotated pod recorded
    refine ⟨o₃, ?_, legible₃⟩
    exact (Patch.apply_append ((Patch.apply_append applied₁).trans
      (Patch.apply_single applied₂))).trans applied₃

end GatewayOperator
